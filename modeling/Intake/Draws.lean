import Intake.Fault
import Intake.Calendar.Written
import Intake.Numeric.Binary64.Basic

/-!
# Random draws

Samples are drawn from a stream of numbers in the unit interval, each a multiple of `2 ^ (-53)`.
Everything random is a function of the next numbers of the stream, so a sample is determined by
the stream and the place reached in it.

## Main definitions

* `Draw`, `Draws` — one number, and a stream with a place in it.
* `Gen` — a computation that draws.
* `Gen.below`, `Gen.unit`, `Gen.delta`, `Gen.coin`, `Gen.pick` — the ways to use a draw.
-/

namespace Intake

open Numeric (Binary64 Number)

/-- A number in the unit interval, one excluded: `numerator / 2 ^ 53`. -/
structure Draw where
  numerator : Nat
  lt : numerator < 2 ^ 53

/-- A stream of draws, and how many of them are used up. -/
structure Draws where
  stream : Nat → Draw
  used : Nat

/-- A computation that draws numbers, and that may fail. -/
abbrev Gen := ExceptT Fault (StateM Draws)

namespace Gen

/-- A computation that draws nothing. -/
def ofExcept {α : Type} : Except Fault α → Gen α
  | .ok a => return a
  | .error fault => throw fault

/-- The next draw. -/
def next : Gen Draw := do
  let draws ← get
  set { draws with used := draws.used + 1 }
  return draws.stream draws.used

/-- A whole number below `n`, or zero. -/
def below (n : Nat) : Gen Nat := do
  return (← next).numerator * n / 2 ^ 53

/-- A number in the unit interval. -/
def unit : Gen Binary64 := do
  return Binary64.ofRatio false (← next).numerator (2 ^ 53)

/-- A number between `-range` and `range`. -/
def delta (range : Binary64) : Gen Binary64 := do
  let draw := 2 * ((← next).numerator : Int) - 2 ^ 53
  return range.scaleBy (draw < 0) draw.natAbs (2 ^ 53)

/-- One of two cases; the draw is in the lower half if true. -/
def coin : Gen Bool := do
  return (← next).numerator < 2 ^ 52

/-- A positive number up to a hundred. -/
def smallId : Gen Nat := do
  return 1 + (← below 100)

/-- A digit to base sixteen. -/
def hexDigit : Gen Char := do
  return Text.hexDigit (← below 16)

/-- A number below `2 ^ 48` to base sixteen. -/
def hexText : Gen String := do
  return String.ofList (Nat.toDigits 16 (← below (2 ^ 48)))

/-- A member of a list, which must not be empty. -/
def pick {α : Type} (items : List α) : Gen α := do
  if items.isEmpty then throw .emptyChoice
  else
    match items[← below items.length]? with
    | some item => return item
    | none => throw .emptyChoice

end Gen

end Intake
