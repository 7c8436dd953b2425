import Intake.Rule.Text
import Intake.Rule.Link
import Intake.Rule.Numeric
import Intake.Rule.Truth
import Intake.Rule.Membership
import Intake.Rule.Temporal
import Intake.Draws
import Intake.Setting

/-!
# Leaves

A leaf of a schema is a rule for single values.  Beside parsing, every leaf has a type signature,
a sample value, and a way to draw random samples.

## Main definitions

* `Leaf` — the rules for single values.
* `Leaf.parse` — the value that an input stands for.
* `Leaf.signature` — the type signature.
* `Leaf.sampleValue`, `Leaf.randomSample` — the samples.
* `Leaf.options` — what the rule was told.
-/

namespace Intake

open Numeric (Number Binary64)
open Calendar (Moment Day Precision)

/-- A rule for single values.  An enumeration has a member at least. -/
inductive Leaf where
  | string (rule : TextRule)
  | url (rule : UrlRule)
  | email (rule : EmailRule)
  | color
  | number (rule : NumberRule)
  | float (rule : FloatRule)
  | int (rule : NumberRule)
  | id
  | boolean (asked : Option Bool)
  | checkbox
  | literal (value : Value)
  | values (members : List Value) (nonempty : members ≠ [])
  | date (rule : DateRule)
  | dateString (rule : SpanRule)
  | timeString (rule : SpanRule) (precision : Precision)
  | timestamp (rule : SpanRule) (precision : Precision)

namespace Leaf

/-- The value that an input stands for. -/
def parse (setting : Setting) (leaf : Leaf) (v : Value) (ctx : Context) : Outcome Value :=
  match leaf with
  | .string rule => .text <$> rule.parse v ctx
  | .url rule => .text <$> rule.parse v ctx
  | .email rule => .text <$> rule.parse v ctx
  | .color => .text <$> parseColor v ctx
  | .number rule => .number <$> rule.parse setting.locale v ctx
  | .float rule => (fun x => .number (.float x)) <$> rule.parse setting.locale v ctx
  | .int rule => .int <$> rule.parseInt setting.locale v ctx
  | .id => .int <$> parseId setting.locale v ctx
  | .boolean asked => .bool <$> parseBoolean asked v ctx
  | .checkbox => .bool <$> parseCheckbox v ctx
  | .literal value => parseLiteral value v ctx
  | .values members _ => parseMember members v ctx
  | .date rule => .moment <$> rule.parse setting.zone v ctx
  | .dateString rule => .text <$> rule.parseDate setting.zone v ctx
  | .timeString rule precision => .text <$> rule.parseTime setting.zone precision v ctx
  | .timestamp rule precision => .text <$> rule.parseStamp setting.zone precision v ctx

/-! ## Type signatures -/

/-- The JSON texts of some values with bars between. -/
def alternativesText (values : List Value) : Except Fault String := do
  return joinWith " | " (← values.mapM (·.json))

/-- The type signature of a leaf. -/
def signature : Leaf → Except Fault String
  | .string _ | .url _ | .email _ | .color => .ok "string"
  | .number _ | .float _ | .int _ | .id => .ok "number"
  | .boolean _ | .checkbox => .ok "boolean"
  | .literal value => value.json
  | .values members _ => alternativesText members
  | .date _ => .ok "Date"
  | .dateString _ | .timeString .. | .timestamp .. => .ok "string"

/-! ## Samples -/

/-- The day that samples of dates are taken from. -/
def sampleDay : Day :=
  ⟨2022, 9, 17, by decide, by decide, by decide, by decide⟩

/-- Noon of the sample day, which stands for the present where nothing else does. -/
def noon : Moment :=
  ⟨sampleDay, { Calendar.TimeOfDay.midnight with hour := 12, hour_lt := by decide }, none, false⟩

/-- The sample time of day. -/
def sampleTime : Calendar.TimeOfDay :=
  { Calendar.TimeOfDay.midnight with
    hour := 13, minute := 45, hour_lt := by decide, minute_lt := by decide }

/-- A number that the format holds exactly, as a quotient. -/
def ratio (num den : Nat) : Value :=
  .number (.float (Binary64.ofRatio false num den))

/-- The sample value of a leaf. -/
def sampleValue : Leaf → Value
  | .string _ => .text "text"
  | .url _ => .text "https://www.example.net"
  | .email _ => .text "user@example.net"
  | .color => .text "#c0ffee"
  | .number _ | .float _ => ratio 314 100
  | .int _ => .int 42
  | .id => .int 1
  | .boolean asked => .bool (asked.getD true)
  | .checkbox => .bool true
  | .literal value => value
  | .values members nonempty => members.head nonempty
  | .date _ => .moment (.startOf sampleDay)
  | .dateString _ => .text (Calendar.writeDate sampleDay)
  | .timeString _ precision => .text (Calendar.writeTime sampleTime precision)
  | .timestamp _ precision =>
    .text (Calendar.writeStamp ⟨sampleDay, sampleTime, none, false⟩ precision)

/-- A random moment within ten years of the present one, to the microsecond. -/
def randomMoment (now : Moment) : Gen Moment := do
  let days ← Gen.delta (Binary64.ofRatio false 3650 1)
  let part := (days.fraction.scaleBy false Moment.microsPerDay 1).nearestInt
  match Moment.ofWall? (now.wall + days.truncate * Moment.microsPerDay + part) with
  | some m => return m
  | none => throw .beyondCalendar

/-- A random sample of a leaf; dates are drawn around the present moment. -/
def randomSample (now : Moment) : Leaf → Gen Value
  | .string _ => .text <$> Gen.hexText
  | .url _ => do
    return .text ("https://www.example.net/users/" ++ Text.writeInt (← Gen.smallId))
  | .email _ => do
    return .text ("user-" ++ Text.writeInt (← Gen.smallId) ++ "@example.net")
  | .color => do
    let digits ← (List.range 6).mapM fun _ => Gen.hexDigit
    return .text (String.ofList ('#' :: digits))
  | .number _ => do
    return .number (.float (← Gen.delta (Binary64.ofRatio false 10 1)))
  | .float _ => do
    return .number (.float (← Gen.unit))
  | .int _ => do
    return .int ((← Gen.smallId) - 50)
  | .id => do
    return .int (← Gen.smallId)
  | .boolean none => .bool <$> Gen.coin
  | .boolean (some asked) => return .bool asked
  | .checkbox => .bool <$> Gen.coin
  | .literal value => return value
  | .values members _ => Gen.pick members
  | .date _ => .moment <$> randomMoment now
  | .dateString _ => do
    return .text (Calendar.writeDate (← randomMoment now).day)
  | .timeString _ precision => do
    return .text (Calendar.writeTime (← randomMoment now).time precision)
  | .timestamp _ precision => do
    return .text (Calendar.writeStamp (← randomMoment now) precision)

/-! ## Options -/

/-- What a text rule was told. -/
def textOptions (rule : TextRule) : List (String × Value) :=
  [("non_empty", rule.nonEmpty), ("min_length", rule.minLength.getD .null),
   ("max_length", rule.maxLength.getD .null), ("match", rule.pattern.getD .null),
   ("trim", rule.trim)]

/-- What a number rule was told. -/
def numberOptions (rule : NumberRule) : List (String × Value) :=
  [("min", rule.min.getD .null), ("max", rule.max.getD .null), ("readable", rule.readable),
   ("locale", rule.locale.getD .null), ("round_error", rule.roundError)]

/-- What a rule for dates and times as text was told. -/
def spanOptions (rule : SpanRule) : List (String × Value) :=
  [("non_empty", rule.nonEmpty), ("min", rule.min.getD .null), ("max", rule.max.getD .null)]

/-- What a leaf was told, by the names of its options. -/
def options : Leaf → List (String × Value)
  | .string rule => textOptions rule
  | .url rule =>
    textOptions rule.text ++ [("domain", rule.domain.getD .null),
      ("protocol", rule.protocol.getD .null), ("protocols", rule.protocols.getD .null)]
  | .email rule => textOptions rule.text ++ [("domain", rule.domain.getD .null)]
  | .color | .checkbox => []
  | .number rule => numberOptions rule
  | .float rule =>
    numberOptions rule.number ++ [("to_fixed", rule.toFixed.getD .null),
      ("to_precision", rule.toPrecision.getD .null)]
  | .int rule => numberOptions rule
  | .id => numberOptions idRule
  | .boolean asked => [("expected_value", (asked.map Value.bool).getD .null)]
  | .literal value => [("value", value)]
  | .values members _ => [("values", .list members)]
  | .date rule => [("min", rule.min.getD .null), ("max", rule.max.getD .null)]
  | .dateString rule => spanOptions rule
  | .timeString rule precision | .timestamp rule precision =>
    spanOptions rule ++ [("precision", .text precision.name)]

end Leaf

end Intake
