/-!
# Written whole numbers

## Main definitions

* `digits` — the decimal digits of a natural number.
* `writeInt` — an integer with its sign.
* `padded` — an integer filled up with zeros to a least width, the sign counted in.
-/

namespace Intake.Text

/-- The decimal digits of a natural number, most significant first and without leading zeros. -/
def digits (n : Nat) : List Char :=
  Nat.toDigits 10 n

/-- The minus sign of a negative integer. -/
def signChars (n : Int) : List Char :=
  if n < 0 then ['-'] else []

/-- The sign and the digits of an integer. -/
def intChars (n : Int) : List Char :=
  signChars n ++ digits n.natAbs

/-- An integer in decimal notation. -/
def writeInt (n : Int) : String :=
  String.ofList (intChars n)

/-- An integer with zeros between sign and digits, so that at least `width` characters stand
there. -/
def paddedChars (width : Nat) (n : Int) : List Char :=
  signChars n ++ List.replicate (width - (intChars n).length) '0' ++ digits n.natAbs

/-- An integer filled up with zeros to a least width, the sign counted in. -/
def padded (width : Nat) (n : Int) : String :=
  String.ofList (paddedChars width n)

end Intake.Text
