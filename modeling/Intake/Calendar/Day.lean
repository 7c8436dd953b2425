/-!
# Calendar days

The days of the years 1 to 9999 of the Gregorian calendar, and their count from the first of them.

## Main definitions

* `Day` — a day that the calendar has.
* `Day.of?` — the day with a given year, month and day of the month, if there is one.
* `Day.ordinal`, `Day.ofOrdinal?` — the count of days up to a day, and back.
-/

namespace Intake.Calendar

/-- Whether February has 29 days. -/
def isLeap (year : Nat) : Bool :=
  year % 4 = 0 && (year % 100 ≠ 0 || year % 400 = 0)

/-- The lengths of the months of a year. -/
def monthLengths (year : Nat) : List Nat :=
  [31, if isLeap year then 29 else 28, 31, 30, 31, 30, 31, 31, 30, 31, 30, 31]

/-- The length of a month, counted from one; there are no days in any other month. -/
def monthLength (year month : Nat) : Nat :=
  if month = 0 then 0 else (monthLengths year).getD (month - 1) 0

/-- A day of the calendar. -/
structure Day where
  year : Nat
  month : Nat
  day : Nat
  year_pos : 1 ≤ year
  year_le : year ≤ 9999
  day_pos : 1 ≤ day
  day_le : day ≤ monthLength year month
deriving DecidableEq

namespace Day

/-- The day with the given year, month and day of the month, if the calendar has it. -/
def of? (year month day : Nat) : Option Day :=
  if h : (1 ≤ year ∧ year ≤ 9999) ∧ 1 ≤ day ∧ day ≤ monthLength year month then
    some ⟨year, month, day, h.1.1, h.1.2, h.2.1, h.2.2⟩
  else none

/-! ## Counting days -/

/-- The days before the first of January of a year. -/
def beforeYear (year : Nat) : Nat :=
  365 * (year - 1) + (year - 1) / 4 - (year - 1) / 100 + (year - 1) / 400

/-- The days of a year before the first of a month. -/
def beforeMonth (year month : Nat) : Nat :=
  ((monthLengths year).take (month - 1)).foldl (· + ·) 0

/-- The number of the day, counted from one at the first of January of the year 1. -/
def ordinal (d : Day) : Nat :=
  beforeYear d.year + beforeMonth d.year d.month + d.day

/-- The year that the day with the given number lies in.  Days are spread so evenly over the 400
years of a cycle that the estimate is wrong by one year at most. -/
def yearOfOrdinal (n : Nat) : Nat :=
  let estimate := 400 * (n - 1) / 146097 + 1
  if n ≤ beforeYear estimate then estimate - 1
  else if beforeYear (estimate + 1) < n then estimate + 1
  else estimate

/-- The month, counted from the given one, and the day of the month that a day of the year falls
on, from the lengths of the months that follow. -/
def locate (month : Nat) : List Nat → Nat → Nat × Nat
  | [], day => (month, day)
  | length :: lengths, day =>
    if day ≤ length then (month, day) else locate (month + 1) lengths (day - length)

/-- The day with the given number. -/
def ofOrdinal? (n : Nat) : Option Day :=
  let year := yearOfOrdinal n
  let (month, day) := locate 1 (monthLengths year) (n - beforeYear year)
  of? year month day

end Day

end Intake.Calendar
