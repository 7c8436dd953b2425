import Intake.Calendar.Zone
import Intake.Numeric.Number

/-!
# Moments as numbers

A moment is given by the milliseconds since the epoch, which are divided by a thousand to a binary
number of seconds and then rounded to microseconds.  The other way, moments are ordered by their
seconds since the epoch as a binary number.  A moment of unknown offset is one of the clocks of the
place, both ways.

## Main definitions

* `ofEpochMillis?` — the moment so many milliseconds after the epoch.
* `Moment.seconds` — the seconds since the epoch.
-/

namespace Intake.Calendar

open Numeric (Binary64 Number)

/-- A number of milliseconds in seconds, rounded once. -/
def millisToSeconds : Number → Binary64
  | .int n => Binary64.ofRatio (n < 0) n.natAbs 1000
  | .float x => x.scaleBy false 1 1000

/-- A finite number of seconds in microseconds: whole seconds are exact, and the fraction is
rounded to the nearest microsecond, halves to the even one. -/
def secondsToMicros (x : Binary64) : Int :=
  x.truncate * 1000000 + (x.fraction.scaleBy false 1000000 1).nearestInt

/-- The moment so many milliseconds after the epoch, if the calendar has it and the day before. -/
def ofEpochMillis? (zone : Zone) (millis : Number) : Option Moment :=
  let seconds := millisToSeconds millis
  if seconds.isFinite then zone.moment? (secondsToMicros seconds) else none

/-- Whole seconds and microseconds as a binary number: the sum of the two, each as one. -/
def joinSeconds (whole : Int) (microsecond : Nat) : Binary64 :=
  let part := (Binary64.ofRatio false microsecond 1000000).units?.getD 0
  let units := whole * Binary64.unitsPerOne + part
  Binary64.ofRatio (units < 0) units.natAbs Binary64.unitsPerOne

/-- The seconds since the epoch, by which moments are ordered.  With an offset they are exact up to
one rounding; without one they are those at which the clocks of the place show the moment. -/
def Moment.seconds (zone : Zone) (m : Moment) : Except CalendarEdge Binary64 :=
  match m.offset with
  | some _ => .ok (Binary64.ofRatio (m.instant < 0) m.instant.natAbs 1000000)
  | none => do
    return joinSeconds (← zone.secondOf m.wallSecond m.fold) m.time.microsecond

end Intake.Calendar
