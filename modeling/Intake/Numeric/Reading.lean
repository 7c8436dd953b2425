import Intake.Numeric.Number
import Intake.Text.Ascii
import Intake.Text.Blank
import Intake.Text.DecimalDigit

/-!
# Numbers read from text

A plain number is an optional sign and decimal digits of any script, which read as an integer, or
a decimal fraction with an optional exponent, or one of the words for infinity, which read as a
binary number.  White space around it is skipped; words for not-a-number are no number.

A whole number by itself is read by a rule of its own, which lets a low line stand between two
digits.

## Main definitions

* `readNumber` — the number a text writes, if it writes one.
* `readWholeNumber?` — the whole number a text writes, if it writes one.
-/

namespace Intake.Numeric

open Text (isDigit digitsValue)

/-! ## Parts of a written number -/

/-- Splits a sign off; the flag tells whether it was a minus. -/
def splitSign : List Char → Bool × List Char
  | '+' :: cs => (false, cs)
  | '-' :: cs => (true, cs)
  | cs => (false, cs)

/-- Whether the characters are decimal digits, one at least. -/
def isDigits (cs : List Char) : Bool :=
  !cs.isEmpty && cs.all isDigit

/-- The exponent at the end of a decimal, which is zero where nothing is left. -/
def readExponent? : List Char → Option Int
  | [] => some 0
  | c :: cs =>
    if c = 'e' || c = 'E' then
      let (negative, digits) := splitSign cs
      if isDigits digits then some (Binary64.withSign negative (digitsValue digits)) else none
    else none

/-- An unsigned decimal: digits with an optional point among or beside them, one digit at least,
and an optional exponent. -/
def readDecimal? (negative : Bool) (cs : List Char) : Option Decimal :=
  let whole := cs.takeWhile isDigit
  let rest := cs.dropWhile isDigit
  let (places, rest) := match rest with
    | '.' :: tail => (tail.takeWhile isDigit, tail.dropWhile isDigit)
    | _ => ([], rest)
  if whole.isEmpty && places.isEmpty then none
  else
    (readExponent? rest).map fun exponent =>
      ⟨negative, digitsValue (whole ++ places), exponent - places.length⟩

/-- The words that write infinity and not-a-number, in either case. -/
def readSpecial? (negative : Bool) (cs : List Char) : Option Binary64 :=
  let word := cs.map Text.lowerAscii
  if word = "inf".toList || word = "infinity".toList then some (.infinite negative)
  else if word = "nan".toList then some Binary64.noNumber
  else none

/-- The binary number that the characters write. -/
def readBinary64? (cs : List Char) : Option Binary64 :=
  let (negative, rest) := splitSign cs
  readSpecial? negative rest <|> (readDecimal? negative rest).map Binary64.ofDecimal

/-! ## Plain numbers -/

/-- The integer that a sign and digits write. -/
def readInteger (negative : Bool) (digits : List Char) : Except DigitLimit Number :=
  if digits.length ≤ maxDigits then .ok (.int (Binary64.withSign negative (digitsValue digits)))
  else .error (.reading digits.length)

/-- The number that the characters write, if they write one. -/
def readNumberChars (text : List Char) : Except DigitLimit (Option Number) :=
  let cs := Text.trimChars text
  if cs.isEmpty || cs.contains '_' then .ok none
  else
    let (negative, rest) := splitSign cs
    if isDigits rest then (readInteger negative rest).map some
    else
      match readBinary64? cs with
      | none | some (.nan _) => .ok none
      | some x => .ok (some (.float x))

/-- The number that a text writes, if it writes one. -/
def readNumber (text : String) : Except DigitLimit (Option Number) :=
  readNumberChars text.toList

/-! ## Whole numbers -/

/-- Whether a character is skipped around a whole number: white space, but for the separators of
information. -/
def isNumberBlank (c : Char) : Bool :=
  Text.isBlank c && !(0x1C ≤ c.toNat && c.toNat < 0x20)

/-- Digits, one at least, with single low lines between them. -/
def spacedDigits? : List Char → Option (List Char)
  | [] => none
  | [c] => if isDigit c then some [c] else none
  | c :: d :: cs =>
    if !isDigit c then none
    else if d = '_' then (spacedDigits? cs).map (c :: ·)
    else (spacedDigits? (d :: cs)).map (c :: ·)

/-- The whole number that the characters write, if they write one. -/
def readWholeNumber? (text : List Char) : Option (Except DigitLimit Int) :=
  let cs := ((text.dropWhile isNumberBlank).reverse.dropWhile isNumberBlank).reverse
  let (negative, rest) := splitSign cs
  (spacedDigits? rest).map fun digits =>
    if digits.length ≤ maxDigits then .ok (Binary64.withSign negative (digitsValue digits))
    else .error (.reading digits.length)

end Intake.Numeric
