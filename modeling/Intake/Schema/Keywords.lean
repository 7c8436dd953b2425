import Intake.Schema.Build
import Intake.Schema.Shown
import Intake.Pattern.Reading

/-!
# Schemas by keywords

A schema is also put together from options by name.  An option that is null says nothing, flags are
told by whether they count as something, and names that the kind of the schema does not know are
options about its samples.

## Main definitions

* `LeafKind` — the kinds of leaves that options make.
* `LeafKind.build` — the leaf that options make.
* `Schema.booleanBy`, `Schema.valuesBy`, `Schema.objectBy`, `Schema.arrayBy`, `Schema.nullableBy`,
  `Schema.optionalBy`, `Schema.singleBy`, `Schema.unionBy`, `Schema.dictBy` — the other schemas.
-/

namespace Intake

open Calendar (Precision)

/-! ## Options -/

/-- The pattern that an option asks for.  A text is read as one; all else stays as it is. -/
def Pattern.ofOption? (v : Value) : Except Fault (Option Value) :=
  match v with
  | .null => .ok none
  | .text source =>
    match Pattern.compile source false with
    | .ok pattern => .ok (some (.pattern pattern))
    | .error defect => .error (.badPattern defect)
  | v => .ok (some v)

/-- The precision that a value names. -/
def Precision.ofValue (v : Value) : Except Fault Precision :=
  match v with
  | .text name =>
    if Precision.names.contains name then .ok (.ofName name)
    else .error (.unknownPrecision (Text.quoteLiteral name))
  | _ => do
    throw (.unknownPrecision (← v.literal))

namespace Keywords

/-- An option that is told to be something, null included, or its default. -/
def getD (options : Keywords) (name : String) (default : Value) : Value :=
  (options.value? name).getD default

/-- Fails where one of the names is among the options. -/
def refuse (names : List String) (options : Keywords) : Except Fault Unit :=
  match options.find? fun option => names.contains option.1 with
  | some option => .error (.unknownOption option.1)
  | none => .ok ()

/-- Fails where there are options at all. -/
def refuseAll : Keywords → Except Fault Unit
  | [] => .ok ()
  | option :: _ => .error (.unknownOption option.1)

/-- The options of a text rule. -/
def textRule (options : Keywords) : Except Fault TextRule := do
  return { nonEmpty := options.getD "non_empty" (.bool false)
           minLength := options.get? "min_length"
           maxLength := options.get? "max_length"
           pattern := ← Pattern.ofOption? (options.getD "match" .null)
           trim := options.getD "trim" (.bool true) }

/-- The options of a number rule. -/
def numberRule (options : Keywords) : NumberRule where
  min := options.get? "min"
  max := options.get? "max"
  readable := options.getD "readable" (.bool false)
  locale := options.get? "locale"

/-- The options of a rule for dates and times as text. -/
def spanRule (options : Keywords) : SpanRule where
  nonEmpty := options.getD "non_empty" (.bool false)
  min := options.get? "min"
  max := options.get? "max"

/-- The precision among the options. -/
def precision (options : Keywords) (default : Precision) : Except Fault Precision :=
  Precision.ofValue (options.getD "precision" (.text default.name))

end Keywords

/-! ## Leaves -/

/-- The kinds of leaves that options make. -/
inductive LeafKind where
  | string
  | url
  | email
  | color
  | number
  | float
  | int
  | id
  | checkbox
  | date
  | dateString
  | timeString
  | timestamp
deriving DecidableEq, Repr

/-- The names of the options of a text rule. -/
def textNames : List String :=
  ["non_empty", "min_length", "max_length", "match", "trim"]

/-- The names of the options of a number rule. -/
def numberNames : List String :=
  ["min", "max", "readable", "locale"]

/-- The names of the options of a rule for dates and times as text. -/
def spanNames : List String :=
  ["non_empty", "min", "max"]

namespace LeafKind

/-- The names of the options of a kind, beside those about samples. -/
def optionNames : LeafKind → List String
  | .string => textNames
  | .url => textNames ++ ["domain", "protocol", "protocols"]
  | .email => textNames ++ ["domain"]
  | .color | .id | .checkbox => []
  | .number => numberNames ++ ["round_error"]
  | .float => numberNames ++ ["to_fixed", "to_precision"]
  | .int => numberNames
  | .date => ["min", "max"]
  | .dateString => spanNames
  | .timeString | .timestamp => spanNames ++ ["precision"]

/-- The leaf that options make. -/
def leaf (kind : LeafKind) (options : Keywords) : Except Fault Leaf := do
  match kind with
  | .string => return .string (← options.textRule)
  | .url =>
    return .url { text := ← options.textRule, domain := options.get? "domain"
                  protocol := options.get? "protocol", protocols := options.get? "protocols" }
  | .email => return .email { text := ← options.textRule, domain := options.get? "domain" }
  | .color => return .color
  | .number =>
    return .number { options.numberRule with
                     roundError := options.getD "round_error" (.bool true) }
  | .float =>
    return .float { number := options.numberRule, toFixed := options.get? "to_fixed"
                    toPrecision := options.get? "to_precision" }
  | .int => return .int options.numberRule
  | .id => return .id
  | .checkbox => return .checkbox
  | .date => return .date { min := options.get? "min", max := options.get? "max" }
  | .dateString => return .dateString options.spanRule
  | .timeString => return .timeString options.spanRule (← options.precision .minute)
  | .timestamp => return .timestamp options.spanRule (← options.precision .second)

/-- The schema of a leaf that options make. -/
def build (kind : LeafKind) (options : Keywords) : Except Fault Schema := do
  Schema.ofLeaf (← kind.leaf options) (options.without kind.optionNames)

end LeafKind

/-! ## Other schemas -/

namespace Schema

/-- The schema of a truth value, which may be asked to be a given one.  What is asked is given in
front of the options or among them. -/
def booleanBy (asked : Option Value) (options : Keywords) : Except Fault Schema := do
  if asked.isSome then options.refuse ["expected_value"]
  let asked := match asked.getD (options.getD "expected_value" .null) with
    | .null => none
    | v => some v.isTruthy
  ofLeaf (.boolean asked) (options.without ["expected_value"])

/-- The schema of an enumeration. -/
def valuesBy (listed : Value) (options : Keywords) : Except Fault Schema := do
  options.refuse ["values"]
  ofValues listed options

/-- The schema of an object. -/
def objectBy (fields : List (Value × Schema)) (options : Keywords) : Except Fault Schema := do
  options.refuse ["fields"]
  ofFields fields options

/-- The schema of an array. -/
def arrayBy (item : Schema) (options : Keywords) (now : Calendar.Moment := Leaf.noon) :
    Gen Schema := do
  Gen.ofExcept (options.refuse ["parser"])
  let item ← item.redrawn now
  let rule : ArrayRule :=
    { minLength := options.get? "min_length", maxLength := options.get? "max_length"
      maybeSingle := options.getD "maybe_single" (.bool false) }
  Gen.ofExcept
    (arrayOf item rule (options.without ["min_length", "max_length", "maybe_single"]))

/-- The schema of a value that may also be null. -/
def nullableBy (inner : Schema) (options : Keywords) (now : Calendar.Moment := Leaf.noon) :
    Gen Schema := do
  Gen.ofExcept (options.refuse ["parser"])
  Gen.ofExcept (nullableOf (← inner.redrawn now) options)

/-- The schema of a value that an object may leave out; it has no options. -/
def optionalBy (inner : Schema) (options : Keywords) : Except Fault Schema := do
  options.refuseAll
  optionalOf inner

/-- The schema of an array of one item; it has no options.  The type of the item is asked for twice,
once for the array and once for what stands in it. -/
def singleBy (item : Schema) (options : Keywords) (now : Calendar.Moment := Leaf.noon) :
    Gen Schema := do
  Gen.ofExcept options.refuseAll
  let item ← item.redrawn now
  Gen.ofExcept (singleOf (← item.redrawn now))

/-- The schema of a union. -/
def unionBy (candidates : List Schema) (options : Keywords) : Except Fault Schema := do
  options.refuse ["parsers"]
  unionOf candidates options

/-- The schema of a dictionary. -/
def dictBy (key : Option Schema) (value : Schema) (options : Keywords) : Except Fault Schema := do
  options.refuse ["key", "value"]
  dictOf key value options

end Schema

end Intake
