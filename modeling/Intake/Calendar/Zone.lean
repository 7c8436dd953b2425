import Intake.Calendar.Moment

/-!
# The clocks of a place

Clocks are ahead of universal time or behind it, by more or less as the law of the place has it.
Both ways between universal time and what the clocks show read them at some seconds near by, and
fail where they show a second that the calendar does not have.

## Main definitions

* `Zone` — the clocks of a place.
* `Zone.read` — how far they are ahead at a second.
* `Zone.secondOf` — the second of universal time at which they show a given one.
* `Zone.moment?` — what they show at an instant.
-/

namespace Intake.Calendar

/-- The first second of the calendar, counted from the epoch. -/
def firstSecond : Int := -62135596800

/-- The second after the last of the calendar. -/
def endSecond : Int := 253402300800

/-- The seconds of a day. -/
def secondsPerDay : Int := 86400

/-- The side on which a second is outside of the calendar. -/
inductive CalendarEdge where
  | first
  | last
deriving DecidableEq, Repr

/-- The clocks of a place: the seconds by which they are ahead at a second of universal time,
counted from the epoch.  No clock is a day and two hours off. -/
structure Zone where
  ahead : Int → Int
  bounded : ∀ second, (ahead second).natAbs < 93600

namespace Zone

/-- Clocks that are always ahead by the same. -/
def fixed (ahead : Int) (h : ahead.natAbs < 93600) : Zone :=
  ⟨fun _ => ahead, fun _ => h⟩

/-- Clocks that show universal time. -/
def utc : Zone :=
  fixed 0 (by decide)

/-- How far the clocks are ahead at a second of universal time, if what they show is in the
calendar. -/
def read (zone : Zone) (second : Int) : Except CalendarEdge Int :=
  let shown := second + zone.ahead second
  if shown < firstSecond then .error .first
  else if endSecond ≤ shown then .error .last
  else .ok (zone.ahead second)

/-- The second of universal time at which the clocks show a second.  A second that they show twice
stands for the first time or, if asked for again, for the second; one that they skip stands for
what it would be by the clocks before the gap, or after it.  The clocks are read where they would
show the second if they were always ahead by the same, and a day from there for another such
guess. -/
def secondOf (zone : Zone) (shown : Int) (again : Bool) : Except CalendarEdge Int := do
  let guess ← zone.read shown
  let first := shown - guess
  let ahead ← zone.read first
  let probe :=
    if ahead ≠ guess then first else if again then first + secondsPerDay else first - secondsPerDay
  let other ← zone.read probe
  if other = guess then return first
  else
    let second := shown - other
    if (← zone.read second) = other then return second
    else if ahead = guess then return first
    else return if again then min first second else max first second

/-- What the clocks show so many microseconds after the epoch.  They are also read a day earlier: if
they have been set back since, it is shown for the second time where the clocks before were right
as long ago as they have been set back by. -/
def moment? (zone : Zone) (micros : Int) : Option Moment := do
  let second := micros.fdiv 1000000
  let ahead ← (zone.read second).toOption
  let before ← (zone.read (second - secondsPerDay)).toOption
  let fold ←
    if ahead < before then
      (zone.read (second + (ahead - before))).toOption.map fun earlier => decide (earlier = before)
    else some false
  let shown ← Moment.ofWall? (micros + ahead * 1000000)
  return { shown with fold }

end Zone

end Intake.Calendar
