import Intake.Calendar.Day

/-!
# Moments

A moment is a day, a time of day to the microsecond and, where it is known, the offset of its
clock from universal time.  Moments without an offset are compared with each other by what their
clocks show; an instant takes them for universal time.

## Main definitions

* `TimeOfDay`, `Offset`, `Moment` — the parts and the whole.
* `Moment.wall`, `Moment.wallSecond` — from the epoch to what the clock shows.
* `Moment.instant` — the microseconds from the epoch to the moment itself.
* `Moment.ofWall?` — the moment that a clock shows so many microseconds after the epoch.
-/

namespace Intake.Calendar

/-- A time of day to the microsecond. -/
structure TimeOfDay where
  hour : Nat
  minute : Nat
  second : Nat
  microsecond : Nat
  hour_lt : hour < 24
  minute_lt : minute < 60
  second_lt : second < 60
  microsecond_lt : microsecond < 1000000
deriving DecidableEq

namespace TimeOfDay

/-- The time of day with the given fields, if they are in range. -/
def of? (hour minute second microsecond : Nat) : Option TimeOfDay :=
  if h : (hour < 24 ∧ minute < 60) ∧ second < 60 ∧ microsecond < 1000000 then
    some ⟨hour, minute, second, microsecond, h.1.1, h.1.2, h.2.1, h.2.2⟩
  else none

/-- The start of the day. -/
def midnight : TimeOfDay :=
  ⟨0, 0, 0, 0, by decide, by decide, by decide, by decide⟩

/-- The whole milliseconds of the second. -/
def millisecond (t : TimeOfDay) : Nat :=
  t.microsecond / 1000

/-- The microseconds since midnight. -/
def micros (t : TimeOfDay) : Nat :=
  ((t.hour * 60 + t.minute) * 60 + t.second) * 1000000 + t.microsecond

/-- The time of day so many microseconds after midnight; whole days are dropped. -/
def ofMicros (n : Nat) : TimeOfDay where
  hour := n / 3600000000 % 24
  minute := n / 60000000 % 60
  second := n / 1000000 % 60
  microsecond := n % 1000000
  hour_lt := Nat.mod_lt _ (by decide)
  minute_lt := Nat.mod_lt _ (by decide)
  second_lt := Nat.mod_lt _ (by decide)
  microsecond_lt := Nat.mod_lt _ (by decide)

end TimeOfDay

/-- How far a clock is ahead of universal time, in minutes; less than a day either way. -/
structure Offset where
  minutes : Int
  bounded : minutes.natAbs < 1440
deriving DecidableEq

/-- The offset of so many minutes, if it is less than a day. -/
def Offset.of? (minutes : Int) : Option Offset :=
  if h : minutes.natAbs < 1440 then some ⟨minutes, h⟩ else none

/-- The offset of universal time. -/
def Offset.utc : Offset :=
  ⟨0, by decide⟩

/-- A day, a time of day, and the offset of the clock that showed them if it is known.  A clock that
is set back shows some times again; the fold tells the second time from the first. -/
structure Moment where
  day : Day
  time : TimeOfDay
  offset : Option Offset
  fold : Bool
deriving DecidableEq

namespace Moment

/-- The microseconds of a day. -/
def microsPerDay : Nat := 86400000000

/-- The number of the first of January 1970. -/
def epochOrdinal : Nat := 719163

/-- The start of a day, on a clock of unknown offset. -/
def startOf (day : Day) : Moment :=
  ⟨day, .midnight, none, false⟩

/-- The microseconds from the epoch to what the clock shows. -/
def wall (m : Moment) : Int :=
  ((m.day.ordinal : Int) - epochOrdinal) * microsPerDay + m.time.micros

/-- The whole seconds from the epoch to what the clock shows. -/
def wallSecond (m : Moment) : Int :=
  m.wall.fdiv 1000000

/-- The microseconds from the epoch to the moment itself; a clock of unknown offset is taken to show
universal time. -/
def instant (m : Moment) : Int :=
  match m.offset with
  | none => m.wall
  | some offset => m.wall - offset.minutes * 60000000

/-- Whether two moments are the same.  Where both offsets are known the instants count, where both
are unknown the clocks; a moment with an offset is never one without.  The fold does not count. -/
def same (a b : Moment) : Bool :=
  a.offset.isSome = b.offset.isSome && a.instant = b.instant

/-- The moment that a clock of unknown offset shows so many microseconds after the epoch. -/
def ofWall? (micros : Int) : Option Moment :=
  let days := micros.fdiv microsPerDay + epochOrdinal
  if days < 0 then none
  else
    (Day.ofOrdinal? days.toNat).map fun day =>
      ⟨day, .ofMicros (micros.fmod microsPerDay).toNat, none, false⟩

end Moment

end Intake.Calendar
