import Intake.Numeric.Rounding
import Intake.Text.Digits

/-!
# Decimal numbers

A signed whole number times a power of ten: what a text like `-12.50e3` says before it is rounded
to a binary number.

## Main definitions

* `Decimal` — sign, coefficient and exponent.
* `Decimal.stripped` — the same number with no zero at the end of its coefficient.
* `decimalPoint` — how many digits stand before the decimal point of a quotient.
-/

namespace Intake.Numeric

/-- The number `coefficient * 10 ^ exponent`, negated if `negative`. -/
structure Decimal where
  negative : Bool
  coefficient : Nat
  exponent : Int
deriving DecidableEq, Repr

/-- The same number with no zero at the end of its coefficient. -/
def Decimal.stripped (d : Decimal) : Decimal :=
  if d.coefficient = 0 then d
  else
    let zeros := ((Text.digits d.coefficient).reverse.takeWhile (· = '0')).length
    ⟨d.negative, d.coefficient / 10 ^ zeros, d.exponent + zeros⟩

/-- The least `k` with `num / den < 10 ^ k`, for a positive quotient. -/
def decimalPoint (num den : Nat) : Int :=
  if den ≤ num then (Text.digits (num / den)).length
  else 1 - (Text.digits ((den - 1) / num)).length

end Intake.Numeric
