import Intake.Numeric.Rounding
import Intake.Numeric.Decimal

/-!
# Binary floating-point numbers

The numbers of the 64-bit binary format.  A finite number is a whole multiple of the smallest
positive one, `2 ^ (-1074)`, so its exact value is an integer once that number is taken as the
unit; comparisons and roundings are then statements about integers.

## Main definitions

* `Binary64` — not-a-number, the infinities, and the finite numbers with their sign.
* `Binary64.units?` — the exact value of a finite number, counted in units of `2 ^ (-1074)`.
* `Binary64.ofRatio` — the number nearest to a quotient, halfway cases going to the even mantissa.
* `Binary64.ofDecimal`, `Binary64.ofInt?` — the number nearest to a decimal and to an integer.
* `Binary64.scaleBy` — the product with a quotient, rounded once.
-/

namespace Intake.Numeric

/-- A mantissa and an exponent that name a finite number in the only way the format allows: the
mantissa has 53 bits, and it has fewer only at the lowest exponent. -/
def Canonical (mantissa exponent : Nat) : Prop :=
  mantissa < 2 ^ 53 ∧ (2 ^ 52 ≤ mantissa ∨ exponent = 0) ∧ exponent ≤ 2045

instance (mantissa exponent : Nat) : Decidable (Canonical mantissa exponent) :=
  inferInstanceAs (Decidable (_ ∧ _))

/-- A number of the 64-bit binary format.  The finite number with a given sign, mantissa and
exponent is `mantissa * 2 ^ (exponent - 1074)`; zero has a sign too.  What is not a number has a
payload, by which one is told from another. -/
inductive Binary64 where
  | nan (payload : Nat)
  | infinite (negative : Bool)
  | finite (negative : Bool) (mantissa exponent : Nat) (canonical : Canonical mantissa exponent)
deriving DecidableEq

namespace Binary64

/-- How many units of `2 ^ (-1074)` make one. -/
def unitsPerOne : Nat := 2 ^ 1074

/-- What an operation without a result gives. -/
def noNumber : Binary64 := .nan 0

/-- The zero of either sign. -/
def zero (negative : Bool) : Binary64 :=
  .finite negative 0 0 (by decide)

/-- An integer with the sign of a number. -/
def withSign (negative : Bool) (magnitude : Nat) : Int :=
  if negative then -(magnitude : Int) else magnitude

/-- The exact value of a finite number, counted in units of `2 ^ (-1074)`. -/
def units? : Binary64 → Option Int
  | .finite negative mantissa exponent _ => some (withSign negative (mantissa * 2 ^ exponent))
  | _ => none

/-- Whether the number is neither infinite nor not-a-number. -/
def isFinite : Binary64 → Bool
  | .finite .. => true
  | _ => false

/-- The number of opposite sign. -/
def neg : Binary64 → Binary64
  | .nan payload => .nan payload
  | .infinite negative => .infinite (!negative)
  | .finite negative mantissa exponent h => .finite (!negative) mantissa exponent h

/-! ## Rounding to the format -/

/-- The finite number with the given parts, or an infinity if the exponent is too large. -/
def pack (negative : Bool) (mantissa exponent : Nat) : Binary64 :=
  if h : Canonical mantissa exponent then .finite negative mantissa exponent h
  else .infinite negative

/-- The number nearest to `num / den`, with the given sign; a quotient halfway between two goes to
the one with the even mantissa. -/
def ofRatio (negative : Bool) (num den : Nat) : Binary64 :=
  let scaled := num * unitsPerOne
  let exponent := (scaled / den).log2 - 52
  let mantissa := roundHalfEven scaled (den * 2 ^ exponent)
  if mantissa = 2 ^ 53 then pack negative (2 ^ 52) (exponent + 1)
  else pack negative mantissa exponent

/-- The number nearest to a decimal.  Exponents far out of range are decided without writing the
power of ten down. -/
def ofDecimal (d : Decimal) : Binary64 :=
  if d.coefficient = 0 then zero d.negative
  else if 400 < d.exponent then .infinite d.negative
  else if d.exponent < -400 - 4 * (d.coefficient.log2 : Int) then zero d.negative
  else
    let ratio := powerRatio d.coefficient 1 (-d.exponent)
    ofRatio d.negative ratio.1 ratio.2

/-- The number nearest to an integer, if it is finite. -/
def ofInt? (n : Int) : Option Binary64 :=
  let x := ofRatio (n < 0) n.natAbs 1
  if x.isFinite then some x else none

/-- The product with `num / den`, negated if `negative`, rounded once. -/
def scaleBy (negative : Bool) (num den : Nat) : Binary64 → Binary64
  | .nan payload => .nan payload
  | .infinite sign => if num = 0 then noNumber else .infinite (sign != negative)
  | .finite sign mantissa exponent _ =>
    ofRatio (sign != negative) (mantissa * 2 ^ exponent * num) (unitsPerOne * den)

/-! ## Whole numbers among the finite ones -/

/-- The integer that a number equals, if there is one. -/
def toInt? : Binary64 → Option Int
  | .finite negative mantissa exponent _ =>
    let units := mantissa * 2 ^ exponent
    if units % unitsPerOne = 0 then some (withSign negative (units / unitsPerOne)) else none
  | _ => none

/-- The whole part of a finite number, cut off toward zero. -/
def truncate : Binary64 → Int
  | .finite negative mantissa exponent _ =>
    withSign negative (mantissa * 2 ^ exponent / unitsPerOne)
  | _ => 0

/-- What is left of a finite number without its whole part; it keeps the sign. -/
def fraction : Binary64 → Binary64
  | .finite negative mantissa exponent _ =>
    ofRatio negative (mantissa * 2 ^ exponent % unitsPerOne) unitsPerOne
  | _ => noNumber

/-- The integer nearest to a finite number; halfway cases go to the even one. -/
def nearestInt : Binary64 → Int
  | .finite negative mantissa exponent _ =>
    withSign negative (roundHalfEven (mantissa * 2 ^ exponent) unitsPerOne)
  | _ => 0

end Binary64

end Intake.Numeric
