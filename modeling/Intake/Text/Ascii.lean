/-!
# Letters and digits of ASCII

The classes that a notation fixes whatever script its text is in.

## Main definitions

* `isAsciiDigit`, `isAsciiLetter`, `isHexDigit`, `isOctalDigit` — the classes.
* `digitOf` — the value of a digit to a base up to sixteen.
* `lowerAscii` — a letter in lower case.
-/

namespace Intake.Text

/-- Whether a character is a digit of ASCII. -/
def isAsciiDigit (c : Char) : Bool :=
  '0' ≤ c && c ≤ '9'

/-- Whether a character is a letter of ASCII. -/
def isAsciiLetter (c : Char) : Bool :=
  ('a' ≤ c && c ≤ 'z') || ('A' ≤ c && c ≤ 'Z')

/-- Whether a character is a digit to base eight. -/
def isOctalDigit (c : Char) : Bool :=
  '0' ≤ c && c ≤ '7'

/-- Whether a character is a digit to base sixteen, in either case. -/
def isHexDigit (c : Char) : Bool :=
  isAsciiDigit c || ('a' ≤ c && c ≤ 'f') || ('A' ≤ c && c ≤ 'F')

/-- The value of a digit to a base up to sixteen, in either case. -/
def digitOf (c : Char) : Nat :=
  if isAsciiDigit c then c.toNat - 48 else if c ≤ 'F' then c.toNat - 55 else c.toNat - 87

/-- The number that digits write to a base, most significant first. -/
def ofDigits (base : Nat) (cs : List Char) : Nat :=
  cs.foldl (fun n c => base * n + digitOf c) 0

/-- A letter of ASCII in lower case; other characters stay as they are. -/
def lowerAscii (c : Char) : Char :=
  if 'A' ≤ c && c ≤ 'Z' then Char.ofNat (c.toNat + 32) else c

end Intake.Text
