import Intake.Rule.Text

/-!
# Rounding to decimal digits

A number is rounded to a count of decimal places, halves going away from zero, or to a count of
significant digits.  The counts are values of any class, and only those that can be counts are of
use; the roundings go through decimal numbers, which have bounds of their own.

## Main definitions

* `Value.roundPlaces` — a value rounded to a count of decimal places.
* `roundPlacesBy` — a binary number rounded to a count of decimal places.
* `roundSignificantBy` — a binary number rounded to a count of significant digits, or by a layout.
-/

namespace Intake

open Numeric (Number Binary64 powerRatio roundHalfAway)

/-! ## Decimal places -/

/-- The most digits that a decimal number keeps. -/
def keptDigits : Nat := 28

/-- The highest power of ten that is a decimal number. -/
def highestPower : Int := 999999

/-- The highest power of ten that can be asked for. -/
def furthestPower : Int := 2000054

/-- The power of ten to whose multiples a number is to be rounded, if it has digits beyond that.  A
count that is no integer is only of use where there is nothing to round. -/
def roundingPower? (lastPlace : Int) (places : Value) : Except Fault (Option Int) := do
  match ← places.toNumber with
  | .int count =>
    if -lastPlace ≤ count then return none
    else if furthestPower < -count then throw .decimalInvalid
    else if highestPower < -count then throw .decimalOverflow
    else return some (-count)
  | .float count =>
    if (Number.int (-lastPlace)).le (.float count) then return none
    else throw (.notNumber places.className)

/-- A binary number rounded to a count of decimal places. -/
def roundPlacesBy (places : Value) (x : Binary64) : Except Fault Binary64 := do
  match x.lastPlace? with
  | none => return x
  | some lastPlace =>
    match ← roundingPower? lastPlace places with
    | none => return x
    | some power => return x.roundPlaces (-power)

/-- An integer rounded to multiples of a power of ten, as a binary number. -/
def roundInteger (power : Int) (n : Int) : Except Fault Binary64 :=
  let ratio := powerRatio n.natAbs 1 power
  let coefficient := roundHalfAway ratio.1 ratio.2
  if keptDigits < (Text.digits coefficient).length then .error .decimalInvalid
  else .ok (Binary64.ofDecimal ⟨n < 0, coefficient, power⟩)

/-- A value rounded to a count of decimal places, halves going away from zero.  An integer stays as
it is where there is nothing to round, but it must not be too large for a binary number. -/
def Value.roundPlaces (v places : Value) : Except Fault Value :=
  match v with
  | .number (.float x) => (fun y => .number (.float y)) <$> roundPlacesBy places x
  | .number (.int n) => do
    if (Binary64.ofInt? n).isNone then throw .integerTooLarge
    match ← roundingPower? 0 places with
    | none => return .int n
    | some power => return .number (.float (← roundInteger power n))
  | .bool _ => .error .decimalInvalid
  | v => .error (.notNumber v.className)

/-! ## Significant digits -/

/-- A binary number rounded by writing it into a field and reading it back.  Points that fill the
field up count as a part of the number. -/
def roundInField (field : Numeric.Field) (x : Binary64) : Except LayoutFault Binary64 :=
  let cs := field.chars x
  match Numeric.readBinary64? (Text.trimChars (cs.filter (· ≠ '_'))) with
  | some y => .ok y
  | none => .error (.unwritable (String.ofList cs))

/-- A binary number rounded by a layout. -/
def roundByLayout (x : Binary64) : Numeric.Layout → Except LayoutFault Binary64
  | .digits count => .ok (x.roundSignificant count)
  | .field field => roundInField field x

/-- A binary number rounded to a count of significant digits; a count of zero asks for one.  The
count may also be a layout of a field. -/
def roundSignificantBy (count : Value) (x : Binary64) : Except Fault Binary64 := do
  let layout ← count.display
  match Numeric.Layout.read layout.toList with
  | .error defect => throw (.badLayout (.unreadable layout defect))
  | .ok layout => (roundByLayout x layout).mapError .badLayout

end Intake
