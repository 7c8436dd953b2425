import Intake.Schema.Infer
import Intake.RecordLibrary.BuiltIn

/-!
# Functions of values

The parts of parsing as functions of their own, by name and applied to a list of values.  Each takes
a fixed number of arguments, and of each argument only what the function has a use for; all else is
a fault.

## Main definitions

* `Function` — the functions.
* `Function.ofName?` — the function of a name.
* `Function.apply` — what a function answers.
* `Function.notes` — what is written down on the way.
-/

namespace Intake

open Calendar (Moment Precision Zone)
open Numeric (Number Binary64 readNumber readReadable readWholeNumber?)

/-! ## Arguments -/

namespace Value

/-- The text that a value is. -/
def asText (v : Value) : Except Fault String :=
  match v with
  | .text s => .ok s
  | v => .error (.withoutText v.className)

/-- A number with zeros in front of it.  A date is written by a pattern of its own, which names no
part of it. -/
def padded (width : Nat) (v : Value) : Except Fault String :=
  match v with
  | .bool b => .ok (Text.padded width (if b then 1 else 0))
  | .number (.int n) => do
    let _ ← (Numeric.writeInteger n).mapError Fault.digitLimit
    return Text.padded width n
  | .number (.float _) | .text _ | .undefined => .error (.withoutDigits v.className)
  | .moment _ | .day _ => .ok ("0" ++ Text.writeInt width ++ "d")
  | v => .error (.notNumber v.className)

/-- The precision that a value asks for; all but the names of the coarser ones ask for all there
is. -/
def asPrecision : Value → Precision
  | .text name => Precision.ofName name
  | _ => .millisecond

/-- An optional value, null where there is none. -/
def orNull {α : Type} (toValue : α → Value) (a : Option α) : Value :=
  (a.map toValue).getD .null

end Value

/-! ## Numbers -/

/-- The number that a text writes for people, by the decimal mark of a locale. -/
def readForPeople (text locale : Value) : Except Fault Value := do
  let s ← phraseText text
  return .number (← (readReadable (← locale.separator) s).mapError .unreadable)

/-- The microseconds that the fraction of a second stands for. -/
def fractionOfSecond (v : Value) : Except Fault Value :=
  if !v.isTruthy then .ok (.int 0)
  else
    match v with
    | .text s =>
      let kept := s.toList.take 6
      match readWholeNumber? (kept ++ List.replicate (6 - kept.length) '0') with
      | some (.ok n) => .ok (.int n)
      | some (.error limit) => .error (.digitLimit limit)
      | none => .error .notWhole
    | .list _ | .tuple _ => .error (.withoutText v.className)
    | v => .error (.notSequence v.className)

/-! ## Dates and times -/

/-- The moment so many milliseconds after the epoch. -/
def ofMillis (zone : Zone) (v : Value) : Except Fault Value := do
  return .orNull .moment (Calendar.ofEpochMillis? zone (← v.toNumber))

/-- The date of a value as text. -/
def dateText (v : Value) : Except Fault String :=
  match v with
  | .moment m => .ok (Calendar.writeDate m.day)
  | .day d => .ok (Calendar.writeDate d)
  | v => .error (.notTemporal v.className)

/-- The time of day of a value as text. -/
def timeText (v : Value) (precision : Precision) : Except Fault String :=
  match v with
  | .moment m => .ok (Calendar.writeTime m.time precision)
  | v => .error (.notTemporal v.className)

/-- The date and the time of day of a value as text. -/
def stampText (v : Value) (precision : Precision) : Except Fault String := do
  return (← dateText v) ++ " " ++ (← timeText v precision)

/-- The fields of a time as text; fields that the precision leaves out need be of no use. -/
def clockText (hour minute second millisecond : Value) (precision : Precision) :
    Except Fault String := do
  let minutes := (← hour.padded 2) ++ ":" ++ (← minute.padded 2)
  match precision with
  | .minute => return minutes
  | .second => return minutes ++ ":" ++ (← second.padded 2)
  | .millisecond =>
    return minutes ++ ":" ++ (← second.padded 2) ++ "." ++ (← millisecond.padded 3)

/-! ## Random values -/

/-- A number between a range and its negation. -/
def randomWithin (range : Value) : Gen Value := do
  match range.asNumber?.map Number.toBinary64? with
  | some (some x) => return .number (.float (← Gen.delta x))
  | some none =>
    let _ ← Gen.next
    throw .integerTooLarge
  | none =>
    let _ ← Gen.next
    throw (.notNumber range.className)

/-- A member of a value; a dictionary is asked for what is bound to the place drawn. -/
def randomMember (v : Value) : Gen Value :=
  match v with
  | .dict entries => do
    if entries.isEmpty then throw .emptyChoice
    match Entries.get? (.int (← Gen.below entries.length)) entries with
    | some member => return member
    | none => throw .missingKey
  | v =>
    match v.members? with
    | some members => Gen.pick members
    | none => throw (.notSequence v.className)

/-! ## Keys -/

/-- The modifier whose ways of writing go by a name. -/
def Modifier.ofName? : String → Option Modifier
  | "ENUM_SUFFIXES" => some .enums
  | "NULLABLE_SUFFIXES" => some .nullable
  | "OPTIONAL_SUFFIXES" => some .optional
  | _ => none

/-- The way in which a modifier is written at the end of a name, if it is. -/
def suffixOf (name suffixes : Value) : Except Fault Value := do
  let s ← name.asText
  match Modifier.ofName? (← suffixes.asText) with
  | some m => return .orNull .text (m.suffix? s.toList)
  | none => throw .missingKey

/-- The field that an entry of a sample object stands for: its name, its type, and whether it may be
left out. -/
def fieldSummary (key v : Value) : Except Fault Value := do
  let (name, schema) ← Schema.inferField key v
  return .list [name, .text (← schema.signature), .bool (schema.tag = .optional)]

/-! ## Functions -/

/-- The functions. -/
inductive Function where
  | kind
  | describe
  | json
  | joinPhrases
  | typeName
  | isSimpleType
  | exactText
  | same
  | truth
  | separator
  | readNumber
  | readForPeople
  | withoutNoise
  | roundPlaces
  | twoDigits
  | threeDigits
  | readMoment
  | fraction
  | ofMillis
  | dateText
  | clockText
  | timeText
  | stampText
  | toMoment
  | randomId
  | randomDelta
  | randomHex
  | randomMember
  | activeLocale
  | attributeName
  | suffix
  | field
deriving DecidableEq, Repr

namespace Function

/-- The functions with their names. -/
def table : List (String × Function) :=
  [("classify", kind), ("to_type", describe), ("to_json", json), ("compose", joinPhrases),
   ("typeof", typeName), ("is_simple_type", isSimpleType), ("format_number", exactText),
   ("same_value", same), ("parse_boolean", truth), ("decimal_separator", separator),
   ("parse_numeric_string", readNumber), ("parse_readable_number", readForPeople),
   ("round_float_error", withoutNoise), ("round_half_up", roundPlaces), ("d2", twoDigits),
   ("d3", threeDigits), ("parse_date_string", readMoment), ("fraction_to_microsecond", fraction),
   ("from_epoch_millis", ofMillis), ("to_date_string", dateText), ("format_time", clockText),
   ("to_time_string", timeText), ("to_timestamp_string", stampText), ("to_datetime", toMoment),
   ("random_id", randomId), ("random_delta", randomDelta), ("random_hex", randomHex),
   ("random_element", randomMember), ("current_locale", activeLocale),
   ("attribute_name", attributeName), ("match_suffix", suffix), ("infer_field", field)]

/-- The function of a name. -/
def ofName? (name : String) : Option Function :=
  table.lookup name

/-- What a function without randomness answers; the others, and arguments that are too few or too
many, have no answer here. -/
def compute? (setting : Setting) : Function → List Value → Option (Except Fault Value)
  | kind, [v] => some (.ok (.text v.kind.name))
  | describe, [v] => some (.ok (.text v.describe))
  | json, [v] => some (.text <$> v.json)
  | joinPhrases, [a, b] => some (Intake.joinPhrases a b)
  | typeName, [v] => some (.ok (.text v.typeName))
  | isSimpleType, [v] => some ((fun s => .bool (Intake.isSimpleType s)) <$> phraseText v)
  | exactText, [v] => some (.text <$> v.exactText)
  | same, [a, b] => some (.ok (.bool (a.same b)))
  | truth, [v] => some (.ok (.bool v.truth))
  | separator, [v] =>
    some ((fun mark => .text (String.singleton mark.char)) <$> v.separator)
  | readNumber, [v] => some do
    return .orNull .number (← (Numeric.readNumber (← v.asText)).mapError .digitLimit)
  | readForPeople, [text, locale] => some (Intake.readForPeople text locale)
  | withoutNoise, [v] => some (.ok (match v with
    | .number n => .number n.withoutNoise
    | v => v))
  | roundPlaces, [v, places] => some (v.roundPlaces places)
  | twoDigits, [v] => some (.text <$> v.padded 2)
  | threeDigits, [v] => some (.text <$> v.padded 3)
  | readMoment, [v] => some do
    return .orNull .moment (Calendar.readMoment? (← v.asText))
  | fraction, [v] => some (fractionOfSecond v)
  | ofMillis, [v] => some (Intake.ofMillis setting.zone v)
  | dateText, [v] => some (.text <$> Intake.dateText v)
  | clockText, [hour, minute, second, millisecond, precision] =>
    some (.text <$> Intake.clockText hour minute second millisecond precision.asPrecision)
  | timeText, [v] => some (.text <$> Intake.timeText v .minute)
  | timeText, [v, precision] => some (.text <$> Intake.timeText v precision.asPrecision)
  | stampText, [v] => some (.text <$> Intake.stampText v .second)
  | stampText, [v, precision] => some (.text <$> Intake.stampText v precision.asPrecision)
  | toMoment, [v] => some (.ok (.orNull .moment (toMoment? setting.zone v)))
  | activeLocale, [] => some (.ok (.text setting.locale))
  | attributeName, [v] => some ((fun s => .text (Intake.attributeName s)) <$> v.asText)
  | suffix, [name, suffixes] => some (suffixOf name suffixes)
  | field, [key, v] => some (fieldSummary key v)
  | _, _ => none

/-- What a function answers. -/
def apply (setting : Setting) (f : Function) (args : List Value) : Gen Value :=
  match f, args with
  | randomId, [] => do
    return .int (← Gen.smallId)
  | randomHex, [] => do
    return .text (String.singleton (← Gen.hexDigit))
  | randomDelta, [range] => randomWithin range
  | randomMember, [v] => Intake.randomMember v
  | f, args =>
    match f.compute? setting args with
    | some (.ok v) => return v
    | some (.error fault) => throw fault
    | none => throw .wrongArguments

/-- What is written down while a function is applied. -/
def notes (f : Function) (args : List Value) : List Note :=
  match f, args with
  | field, [key, v] => Schema.inferFieldNotes key v
  | _, _ => []

end Function

end Intake
