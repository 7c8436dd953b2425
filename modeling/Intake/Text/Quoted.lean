import Intake.Text.Printable

/-!
# Quoted text

Two ways to write a text between quotation marks.  `quoteJson` writes a JSON string that keeps
every character above the controls as it is.  `quoteLiteral` writes a text for a reader of
diagnostics: it shows every character that does not print by its code point, and picks the
quotation mark that needs fewer escapes.

## Main definitions

* `quoteJson` — a text as a JSON string.
* `quoteLiteral` — a text between apostrophes, or between double quotes where it holds an
  apostrophe and no double quote.
-/

namespace Intake.Text

/-- The digit of a number below sixteen, in lower case. -/
def hexDigit (n : Nat) : Char :=
  if n < 10 then Char.ofNat (48 + n) else Char.ofNat (87 + n)

/-- The last `width` digits of a number to base sixteen, most significant first. -/
def hexDigits : Nat → Nat → List Char
  | 0, _ => []
  | width + 1, n => hexDigits width (n / 16) ++ [hexDigit (n % 16)]

/-! ## JSON strings -/

/-- What stands for a character inside a JSON string. -/
def escapeJson (c : Char) : List Char :=
  if c = '"' then ['\\', '"']
  else if c = '\\' then ['\\', '\\']
  else if c = '\n' then ['\\', 'n']
  else if c = '\r' then ['\\', 'r']
  else if c = '\t' then ['\\', 't']
  else if c = '\x0c' then ['\\', 'f']
  else if c = '\x08' then ['\\', 'b']
  else if c.toNat < 0x20 then '\\' :: 'u' :: hexDigits 4 c.toNat
  else [c]

/-- A text as a JSON string. -/
def quoteJson (text : String) : String :=
  String.ofList ('"' :: text.toList.flatMap escapeJson ++ ['"'])

/-! ## Literals for diagnostics -/

/-- What stands for a character inside a literal between the given marks. -/
def escapeLiteral (mark c : Char) : List Char :=
  if c = mark || c = '\\' then ['\\', c]
  else if c = '\n' then ['\\', 'n']
  else if c = '\r' then ['\\', 'r']
  else if c = '\t' then ['\\', 't']
  else if isPrintable c then [c]
  else if c.toNat < 0x100 then '\\' :: 'x' :: hexDigits 2 c.toNat
  else if c.toNat < 0x10000 then '\\' :: 'u' :: hexDigits 4 c.toNat
  else '\\' :: 'U' :: hexDigits 8 c.toNat

/-- A text between apostrophes, or between double quotes where it holds an apostrophe and no
double quote. -/
def quoteLiteral (text : String) : String :=
  let cs := text.toList
  let mark := if cs.contains '\'' && !cs.contains '"' then '"' else '\''
  String.ofList (mark :: cs.flatMap (escapeLiteral mark) ++ [mark])

end Intake.Text
