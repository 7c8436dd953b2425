import Intake.Rule.Text
import Intake.Calendar.Epoch
import Intake.Calendar.Reading
import Intake.Calendar.Written

/-!
# Rules for dates and times

A date is taken as it is, from milliseconds since the epoch or from text.  The other three rules
reduce it to text in canonical form.  Bounds go through the same rule as the input: dates are
compared by their seconds, and texts as texts.  The clocks of the place have a say in milliseconds
and in the seconds of a moment.

## Main definitions

* `toMoment?` — the moment that a value stands for.
* `DateRule`, `SpanRule` — what is asked of a date, and of a date or time as text.
* `DateRule.parse`, `SpanRule.parseDate`, `SpanRule.parseTime`, `SpanRule.parseStamp` — what an
  input stands for.
-/

namespace Intake

open Calendar (Moment Precision ClockText Zone)
open Numeric (Binary64 Number)

/-- The moment that a value stands for: a moment, the start of a day, milliseconds since the epoch,
or a written date. -/
def toMoment? (zone : Zone) : Value → Option Moment
  | .moment m => some m
  | .day d => some (.startOf d)
  | .number n => if n.isNaN then none else Calendar.ofEpochMillis? zone n
  | .text s => Calendar.readMoment? s
  | _ => none

/-- A value in the words of its rejection as a date, which show text. -/
def describeDate : Value → String
  | .text s => if s.isEmpty then "empty string" else "string (" ++ Text.quoteJson s ++ ")"
  | v => v.describe

/-! ## Ranges -/

/-- What the bounds of an input are called: the bounds of its name, or of its type if it has
none. -/
def boundSubject (ctx : Context) (type : String) : Except Fault String :=
  match ctx.name with
  | .text s => .ok (if s.isEmpty then type else s)
  | name => if name.isTruthy then .error (.notText name.className) else .ok type

/-- A bound on a date or a time in the words of a rejection. -/
def boundText (bound : String) (v : Value) : Except Fault String :=
  (bound ++ " value should be " ++ ·) <$> v.json

/-- Rejects a result outside of bounds, which are read by `readBound`: one that is `below` the lower
or `above` the upper. -/
def checkRange {α : Type} (ctx : Context) (expected : Value) (type : String)
    (min max : Option Value) (readBound : Value → Context → Outcome α)
    (below above : α → α → Except Fault Bool) (result : α) : Outcome Unit := do
  let subject ← Outcome.ofFault (boundSubject ctx type)
  checkGiven min fun bound => do
    let least ← readBound bound { name := .text ("min value of " ++ subject) }
    ctx.rejectIf (← Outcome.ofFault (below result least)) expected (boundText "min" bound)
  checkGiven max fun bound => do
    let most ← readBound bound { name := .text ("max value of " ++ subject) }
    ctx.rejectIf (← Outcome.ofFault (above result most)) expected (boundText "max" bound)

/-- Whether the seconds of two moments stand in a relation, counted for the first one first. -/
def compareMoments (rel : Binary64 → Binary64 → Bool) (zone : Zone) (a b : Moment) :
    Except Fault Bool := do
  let s ← (a.seconds zone).mapError .ofEdge
  let t ← (b.seconds zone).mapError .ofEdge
  return rel s t

/-- Whether a moment comes before another, by the seconds since the epoch. -/
def momentBelow : Zone → Moment → Moment → Except Fault Bool :=
  compareMoments fun s t => Number.lt (.float s) (.float t)

/-- Whether a moment comes after another, by the seconds since the epoch. -/
def momentAbove : Zone → Moment → Moment → Except Fault Bool :=
  compareMoments fun s t => Number.lt (.float t) (.float s)

/-- Whether a text comes before another, by the order of code points. -/
def textBelow (a b : String) : Except Fault Bool :=
  .ok (a < b)

/-- Whether a text comes after another, by the order of code points. -/
def textAbove (a b : String) : Except Fault Bool :=
  textBelow b a

/-! ## Dates -/

/-- What is asked of a date. -/
structure DateRule where
  min : Option Value := none
  max : Option Value := none

/-- The moment that an input stands for, whatever it is. -/
def readDate (zone : Zone) (v : Value) (ctx : Context) : Outcome Moment :=
  match toMoment? zone v with
  | some m => do
    let _ ← Outcome.ofFault (boundSubject ctx "date")
    return m
  | none => ctx.reject (ctx.expected "date") ("got " ++ describeDate v)

/-- The moment that an input stands for. -/
def DateRule.parse (zone : Zone) (rule : DateRule) (v : Value) (ctx : Context) :
    Outcome Moment := do
  let m ← readDate zone v ctx
  checkRange ctx (ctx.expected "date") "date" rule.min rule.max (readDate zone)
    (momentBelow zone) (momentAbove zone) m
  return m

/-! ## Dates and times as text -/

/-- What is asked of a date or a time as text.  The flag may be any value and is on if that counts
as something. -/
structure SpanRule where
  nonEmpty : Value := .bool false
  min : Option Value := none
  max : Option Value := none

/-- Text without the blanks around it, which may be asked to be something; other values stay as
they are. -/
def trimInput (nonEmpty : Value) (v : Value) (ctx : Context) : Outcome Value :=
  match v with
  | .text _ => .text <$> TextRule.parse { nonEmpty } v ctx
  | _ => .ok v

/-- The date that an input stands for, as text. -/
def readDateText (zone : Zone) (nonEmpty : Value) (v : Value) (ctx : Context) :
    Outcome String := do
  let inner := ctx.overriding (ctx.expected "dateString")
  let m ← readDate zone (← trimInput nonEmpty v inner) inner
  return Calendar.writeDate m.day

/-- The date and the time that an input stands for, as text. -/
def readStampText (zone : Zone) (precision : Precision) (nonEmpty : Value) (v : Value)
    (ctx : Context) : Outcome String := do
  let inner := ctx.overriding (ctx.expected "timestamp")
  let m ← readDate zone (← trimInput nonEmpty v inner) inner
  return Calendar.writeStamp m precision

/-- A written time as text, if its fields are in range. -/
def writeClockText (precision : Precision) (ctx : Context) (expected : Value)
    (clock : ClockText) : Outcome String :=
  if 23 < clock.hour then ctx.reject expected "hour should be within 0 to 23"
  else if 59 < clock.minute then ctx.reject expected "minute should be within 0 to 59"
  else if 59 < clock.second then ctx.reject expected "second should be within 0 to 59"
  else
    let millisecond := Calendar.fractionMicros clock.fraction / 1000
    .ok (Calendar.writeClock clock.hour clock.minute clock.second (millisecond : Nat) precision)

/-- The time of day that an input stands for, as text.  Text is searched for a time, unless it
holds the letter that joins a date and a time. -/
def readTimeText (zone : Zone) (precision : Precision) (nonEmpty : Value) (v : Value)
    (ctx : Context) : Outcome String := do
  let expected := ctx.expected "timeString"
  let inner := ctx.overriding expected
  let fromMoment : Outcome String := do
    let m ← readDate zone v inner
    return Calendar.writeTime m.time precision
  match v with
  | .text s =>
    if s.toList.contains 'T' then fromMoment
    else
      let trimmed ← TextRule.parse { nonEmpty } v inner
      match ClockText.find? trimmed.toList with
      | none => ctx.reject expected ("got " ++ describeDate v)
      | some clock => writeClockText precision ctx expected clock
  | _ => fromMoment

namespace SpanRule

/-- The text that an input stands for by `read`, within the bounds of the rule.  The empty text
stands for itself unless the rule asks for more, and so it does as a bound. -/
def parse (rule : SpanRule) (type : String) (read : Value → Value → Context → Outcome String)
    (v : Value) (ctx : Context) : Outcome String :=
  if !rule.nonEmpty.isTruthy && v.isEmptyText then .ok ""
  else do
    let text ← read rule.nonEmpty v ctx
    let readBound := fun bound boundCtx =>
      if bound.isEmptyText then .ok "" else read (.bool false) bound boundCtx
    checkRange ctx (ctx.expected type) type rule.min rule.max readBound textBelow textAbove
      text
    return text

/-- The date that an input stands for, as `yyyy-mm-dd`. -/
def parseDate (zone : Zone) (rule : SpanRule) : Value → Context → Outcome String :=
  rule.parse "dateString" (readDateText zone)

/-- The time of day that an input stands for, as `hh:mm` or finer. -/
def parseTime (zone : Zone) (rule : SpanRule) (precision : Precision) :
    Value → Context → Outcome String :=
  rule.parse "timeString" (readTimeText zone precision)

/-- The date and the time that an input stands for, as `yyyy-mm-dd hh:mm:ss` or to another
precision. -/
def parseStamp (zone : Zone) (rule : SpanRule) (precision : Precision) :
    Value → Context → Outcome String :=
  rule.parse "timestamp" (readStampText zone precision)

end SpanRule

end Intake
