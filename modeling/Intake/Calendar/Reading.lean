import Intake.Calendar.Moment
import Intake.Text.Blank
import Intake.Text.DecimalDigit

/-!
# Dates and times read from text

A date is `yyyy-m-d`; a time of at least hours and minutes may follow, and after it an offset.
A time alone is looked for anywhere in a text.

## Main definitions

* `ClockText` — a written time, its fields not yet checked.
* `ClockText.read?`, `ClockText.find?` — a time at the start of a text and anywhere in it.
* `readMoment?` — the moment that a text writes.
-/

namespace Intake.Calendar

open Text (isDigit digitsValue)

/-! ## Runs of digits -/

/-- Splits off a run of at most `atMost` digits, if it has `atLeast` of them. -/
def takeDigits? (atLeast atMost : Nat) (cs : List Char) : Option (List Char × List Char) :=
  let run := (cs.take atMost).takeWhile isDigit
  if atLeast ≤ run.length then some (run, cs.drop run.length) else none

/-- Splits off a given character. -/
def skip? (c : Char) : List Char → Option (List Char)
  | [] => none
  | d :: cs => if d = c then some cs else none

/-- The microseconds that the digits of a fraction of a second stand for; digits after the sixth
are dropped. -/
def fractionMicros (fraction : List Char) : Nat :=
  let kept := fraction.take 6
  digitsValue (kept ++ List.replicate (6 - kept.length) '0')

/-! ## Times -/

/-- A written time. -/
structure ClockText where
  hour : Nat
  minute : Nat
  second : Nat
  fraction : List Char
deriving DecidableEq

/-- The seconds and the fraction that may follow hours and minutes, and the rest of the text. -/
def readSeconds (cs : List Char) : (Nat × List Char) × List Char :=
  match (skip? ':' cs).bind (takeDigits? 1 2) with
  | none => ((0, []), cs)
  | some (second, rest) =>
    match (skip? '.' rest).bind fun tail => takeDigits? 1 tail.length tail with
    | none => ((digitsValue second, []), rest)
    | some (fraction, rest) => ((digitsValue second, fraction), rest)

/-- A time at the start of a text, and the rest of it. -/
def ClockText.read? (cs : List Char) : Option (ClockText × List Char) := do
  let (hour, rest) ← takeDigits? 1 2 cs
  let (minute, rest) ← takeDigits? 1 2 (← skip? ':' rest)
  let ((second, fraction), rest) := readSeconds rest
  return (⟨digitsValue hour, digitsValue minute, second, fraction⟩, rest)

/-- The first time in a text. -/
def ClockText.find? : List Char → Option ClockText
  | [] => none
  | c :: cs =>
    match ClockText.read? (c :: cs) with
    | some (clock, _) => some clock
    | none => ClockText.find? cs

/-- The time of day that a written time names, if its fields are in range. -/
def ClockText.toTime? (clock : ClockText) : Option TimeOfDay :=
  TimeOfDay.of? clock.hour clock.minute clock.second (fractionMicros clock.fraction)

/-! ## Offsets -/

/-- The hours and minutes of an offset, with an optional colon between them. -/
def readOffsetMinutes? (cs : List Char) : Option Nat := do
  let (hours, rest) ← takeDigits? 2 2 cs
  let rest := (skip? ':' rest).getD rest
  let (minutes, rest) ← takeDigits? 2 2 rest
  if rest.isEmpty then some (60 * digitsValue hours + digitsValue minutes) else none

/-- The offset at the end of a text: nothing, the letter of universal time, or a sign with hours
and minutes. -/
def readOffset? : List Char → Option (Option Offset)
  | [] => some none
  | c :: cs =>
    if (c = 'Z' || c = 'z') && cs.isEmpty then some (some .utc)
    else if c = '+' then do
      let minutes ← readOffsetMinutes? cs
      some <$> Offset.of? minutes
    else if c = '-' then do
      let minutes ← readOffsetMinutes? cs
      some <$> Offset.of? (-(minutes : Int))
    else none

/-! ## Moments -/

/-- A date at the start of a text, and the rest of it. -/
def readDay? (cs : List Char) : Option (Day × List Char) := do
  let (year, rest) ← takeDigits? 4 4 cs
  let (month, rest) ← takeDigits? 1 2 (← skip? '-' rest)
  let (day, rest) ← takeDigits? 1 2 (← skip? '-' rest)
  return (← Day.of? (digitsValue year) (digitsValue month) (digitsValue day), rest)

/-- A time of day, blanks and an offset, up to the end of a text. -/
def readTimeAndOffset? (cs : List Char) : Option (TimeOfDay × Option Offset) := do
  let (clock, rest) ← ClockText.read? cs
  return (← clock.toTime?, ← readOffset? (rest.dropWhile Text.isBlank))

/-- The moment that a trimmed text writes. -/
def readTrimmed? (cs : List Char) : Option Moment := do
  let (day, rest) ← readDay? cs
  match rest with
  | [] => return .startOf day
  | c :: rest =>
    if c = 'T' || c = 't' || c = ' ' then
      let (time, offset) ← readTimeAndOffset? rest
      return ⟨day, time, offset, false⟩
    else none

/-- The moment that a text writes, white space around it aside. -/
def readMoment? (text : String) : Option Moment :=
  readTrimmed? (Text.trimChars text.toList)

end Intake.Calendar
