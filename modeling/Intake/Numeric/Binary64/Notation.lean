import Intake.Numeric.Binary64.Shortest

/-!
# Written binary numbers

A finite number is written with its shortest digits, positionally from `0.0001` to below
`10 ^ 16` and with a decimal exponent outside; a whole number keeps the digit after its point.

## Main definitions

* `Binary64.write` — the text of a number.
* `Binary64.lastPlace?` — the power of ten of the last digit in that text.
-/

namespace Intake.Numeric

/-- The digits of a decimal, with the decimal point after the first `point` of them. -/
def positionalChars (digits : List Char) (point : Int) : List Char :=
  let size : Int := digits.length
  if point ≤ 0 then '0' :: '.' :: List.replicate (-point).toNat '0' ++ digits
  else if size ≤ point then digits ++ List.replicate (point - size).toNat '0' ++ ['.', '0']
  else digits.take point.toNat ++ '.' :: digits.drop point.toNat

/-- The digits of a decimal, with the decimal point after the first of them, and the exponent with
its sign and at least two digits. -/
def exponentChars (digits : List Char) (exponent : Int) : List Char :=
  let mantissa := match digits with
    | first :: second :: rest => first :: '.' :: second :: rest
    | _ => digits
  let sign := if exponent < 0 then '-' else '+'
  mantissa ++ 'e' :: sign :: Text.paddedChars 2 exponent.natAbs

/-- The text of a decimal without its sign. -/
def Decimal.magnitudeChars (d : Decimal) : List Char :=
  if d.coefficient = 0 then ['0', '.', '0']
  else
    let digits := Text.digits d.coefficient
    let point := digits.length + d.exponent
    if -4 < point && point ≤ 16 then positionalChars digits point
    else exponentChars digits (point - 1)

/-- The power of ten of the last digit that is written: a whole number that is written positionally
has a digit after its point. -/
def Decimal.lastPlace (d : Decimal) : Int :=
  if d.coefficient = 0 then -1
  else if (Text.digits d.coefficient).length + d.exponent ≤ 16 then min d.exponent (-1)
  else d.exponent

namespace Binary64

/-- The power of ten of the last digit that is written of a number, which has to be finite. -/
def lastPlace? (x : Binary64) : Option Int :=
  x.shortest?.map Decimal.lastPlace

/-- The characters that write a number. -/
def chars : Binary64 → List Char
  | .nan _ => ['n', 'a', 'n']
  | .infinite negative => (if negative then ['-'] else []) ++ ['i', 'n', 'f']
  | .finite negative mantissa exponent _ =>
    (if negative then ['-'] else [])
      ++ (shortestDecimal negative mantissa exponent).magnitudeChars

/-- The text of a number. -/
def write (x : Binary64) : String :=
  String.ofList x.chars

end Binary64

end Intake.Numeric
