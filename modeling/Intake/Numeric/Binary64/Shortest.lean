import Intake.Numeric.Binary64.Basic

/-!
# Binary numbers as decimals

Every binary number is written with the fewest decimal digits that read back as the same number;
of the decimals with that many digits, the nearest one is taken.  A number can also be rounded to
a given count of significant digits, or to a given count of decimal places of its shortest form.

## Main definitions

* `RoundingInterval` — the reals that round to a given number.
* `Binary64.shortest?` — the shortest decimal that reads back.
* `Binary64.roundSignificant`, `Binary64.roundPlaces` — rounding to decimal digits and back.
-/

namespace Intake.Numeric

/-! ## The reals that round to a number -/

/-- The quotients from `low / den` to `high / den`, ends included if `closed`. -/
structure RoundingInterval where
  low : Nat
  high : Nat
  den : Nat
  closed : Bool

/-- The magnitudes that round to the mantissa and the exponent.  Below a power of two the next
number is half as far away as above it; a halfway case rounds to an even mantissa. -/
def roundingInterval (mantissa exponent : Nat) : RoundingInterval where
  low := (4 * mantissa - if mantissa = 2 ^ 52 ∧ exponent ≠ 0 then 1 else 2) * 2 ^ exponent
  high := (4 * mantissa + 2) * 2 ^ exponent
  den := 4 * Binary64.unitsPerOne
  closed := mantissa % 2 = 0

/-- Whether `n * 10 ^ power` lies in the interval. -/
def RoundingInterval.contains (interval : RoundingInterval) (n : Nat) (power : Int) : Bool :=
  let low := powerRatio interval.low interval.den power
  let high := powerRatio interval.high interval.den power
  if interval.closed then low.1 ≤ n * low.2 && n * high.2 ≤ high.1
  else low.1 < n * low.2 && n * high.2 < high.1

/-! ## The shortest decimal -/

/-- The multiple of `10 ^ power` that lies in the interval and is nearest to `num / den`, a value
inside; of two equally near ones the even one. -/
def nearestOnGrid? (interval : RoundingInterval) (num den : Nat) (power : Int) : Option Nat :=
  let ratio := powerRatio num den power
  let below := ratio.1 / ratio.2
  match interval.contains below power, interval.contains (below + 1) power with
  | true, true => some (roundHalfEven ratio.1 ratio.2)
  | true, false => some below
  | false, true => some (below + 1)
  | false, false => none

/-- The decimal with the fewest digits among those that read back as the finite number with the
given parts; seventeen digits always do. -/
def shortestDecimal (negative : Bool) (mantissa exponent : Nat) : Decimal :=
  if mantissa = 0 then ⟨negative, 0, 0⟩
  else
    let num := mantissa * 2 ^ exponent
    let den := Binary64.unitsPerOne
    let point := decimalPoint num den
    let interval := roundingInterval mantissa exponent
    let found := (List.range 17).findSome? fun n =>
      let power := point - (n + 1 : Nat)
      (nearestOnGrid? interval num den power).map fun c => (c, power)
    let (coefficient, power) := found.getD (num, 0)
    Decimal.stripped ⟨negative, coefficient, power⟩

namespace Binary64

/-- The shortest decimal that reads back as the number, which has to be finite. -/
def shortest? : Binary64 → Option Decimal
  | .finite negative mantissa exponent _ => some (shortestDecimal negative mantissa exponent)
  | _ => none

/-! ## Rounding to decimal digits -/

/-- The number rounded to `count` significant decimal digits, halfway cases of its exact value
going to the even digit, and read back.  No number has more than 1100 significant digits. -/
def roundSignificant (count : Nat) (x : Binary64) : Binary64 :=
  match x with
  | .finite negative mantissa exponent _ =>
    if mantissa = 0 then x
    else
      let num := mantissa * 2 ^ exponent
      let power := decimalPoint num unitsPerOne - (min count 1100 : Nat)
      let ratio := powerRatio num unitsPerOne power
      ofDecimal ⟨negative, roundHalfEven ratio.1 ratio.2, power⟩
  | _ => x

/-- The number rounded to `places` decimal places and read back: its shortest decimal is cut,
halves going away from zero.  A negative count rounds before the decimal point. -/
def roundPlaces (places : Int) (x : Binary64) : Binary64 :=
  match x.shortest? with
  | none => x
  | some d =>
    if -places ≤ d.exponent then x
    else
      let ratio := powerRatio d.coefficient 1 (-places - d.exponent)
      ofDecimal ⟨d.negative, roundHalfAway ratio.1 ratio.2, -places⟩

end Binary64

end Intake.Numeric
