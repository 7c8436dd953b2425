import Intake.Calendar.Moment
import Intake.Text.Digits

/-!
# Written dates and times

The canonical forms `yyyy-mm-dd`, `hh:mm:ss.mmm` and the two with a space between.  Each field has
a fixed width and the larger units stand first, so the order of the texts is the order of what they
say.

## Main definitions

* `Precision` — how fine a time is written.
* `dateChars`, `timeChars`, `stampChars` — a day, a time of day and both.
* `Moment.write` — a moment with all it holds, its offset included.
-/

namespace Intake.Calendar

open Text (padded)

/-- The finest unit that a written time shows. -/
inductive Precision where
  | minute
  | second
  | millisecond
deriving DecidableEq, Repr

/-- The names of the precisions. -/
def Precision.names : List String :=
  ["minute", "second", "millisecond"]

/-- The precision of a name; every name but the two coarser ones asks for all there is. -/
def Precision.ofName (name : String) : Precision :=
  if name = "minute" then .minute else if name = "second" then .second else .millisecond

/-- The name of a precision. -/
def Precision.name : Precision → String
  | .minute => "minute"
  | .second => "second"
  | .millisecond => "millisecond"

/-- A date as `yyyy-mm-dd`. -/
def writeDate (day : Day) : String :=
  padded 4 day.year ++ "-" ++ padded 2 day.month ++ "-" ++ padded 2 day.day

/-- The fields of a time as `hh:mm`, `hh:mm:ss` or `hh:mm:ss.mmm`. -/
def writeClock (hour minute second millisecond : Int) (precision : Precision) : String :=
  let minutes := padded 2 hour ++ ":" ++ padded 2 minute
  match precision with
  | .minute => minutes
  | .second => minutes ++ ":" ++ padded 2 second
  | .millisecond => minutes ++ ":" ++ padded 2 second ++ "." ++ padded 3 millisecond

/-- A time of day, cut to a precision. -/
def writeTime (time : TimeOfDay) (precision : Precision) : String :=
  writeClock time.hour time.minute time.second time.millisecond precision

/-- A date and a time of day, cut to a precision. -/
def writeStamp (m : Moment) (precision : Precision) : String :=
  writeDate m.day ++ " " ++ writeTime m.time precision

/-! ## Moments in full -/

/-- An offset as a sign, hours and minutes. -/
def Offset.write (offset : Offset) : String :=
  let size := offset.minutes.natAbs
  (if offset.minutes < 0 then "-" else "+") ++ padded 2 (size / 60 : Nat) ++ ":"
    ++ padded 2 (size % 60 : Nat)

/-- A moment with the given text between date and time: seconds always, microseconds unless they
are zero, and the offset if it is known. -/
def Moment.writeWith (between : String) (m : Moment) : String :=
  writeDate m.day ++ between ++ writeTime m.time .second
    ++ (if m.time.microsecond = 0 then "" else "." ++ padded 6 m.time.microsecond)
    ++ (match m.offset with
        | none => ""
        | some offset => offset.write)

/-- A moment with a `T` between date and time. -/
def Moment.write (m : Moment) : String :=
  m.writeWith "T"

end Intake.Calendar
