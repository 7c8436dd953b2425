import Intake.Leaf
import Intake.Value.Entries

/-!
# Schemas

A schema is a tree: leaves are rules for single values, and the nodes above them describe objects,
arrays, optional and nullable values, unions and dictionaries.

## Main definitions

* `SampleOptions` — what a user says about the samples of a schema.
* `SampleOptions.ofFields` — the same, from options by name.
* `Schema` — the tree.
* `Tag` — how an object treats a field that is absent.
-/

namespace Intake

/-! ## Samples by the user -/

/-- Where random samples come from: from the rule itself, from a value that all of them are to be,
from a list to pick from, or from something of a class that gives none. -/
inductive RandomSource where
  | byDefault
  | constant (v : Value)
  | among (items : List Value)
  | useless (className : String)

/-- What a user says about samples: the sample value, if it is not that of the rule itself, and
where random samples come from.  Where a type is told by a random sample, that sample is kept. -/
structure SampleOptions where
  value : Option Value := none
  random : RandomSource := .byDefault
  shown : Option Value := none

/-- What an option is given as: a value, or a function that always gives the same value. -/
inductive Supplied where
  | value (v : Value)
  | function (v : Value)

/-- Options by their names. -/
abbrev Keywords := List (String × Supplied)

namespace Keywords

/-- What an option was told to be, null included. -/
def value? (options : Keywords) (name : String) : Option Value :=
  match options.lookup name with
  | some (.value v) => some v
  | _ => none

/-- What an option was told to be; null says nothing. -/
def get? (options : Keywords) (name : String) : Option Value :=
  match options.value? name with
  | some .null => none
  | v => v

/-- The options but those with the given names. -/
def without (names : List String) (options : Keywords) : Keywords :=
  options.filter fun option => !names.contains option.1

end Keywords

namespace SampleOptions

/-- The names of the options. -/
def names : List String :=
  ["sample_value", "sample_values", "random_sample"]

/-- The first of some values, which an empty list, or a value that counts as nothing, does not
have.  A dictionary is asked for what is bound to zero. -/
def firstOf (v : Value) : Except Fault (Option Value) :=
  if !v.isTruthy then .ok none
  else
    match v with
    | .list items | .tuple items => .ok items.head?
    | .text s => .ok (s.toList.head?.map fun c => .text (String.singleton c))
    | .dict entries =>
      match Entries.get? (.int 0) entries with
      | some first => .ok (some first)
      | none => .error .missingKey
    | v => .error (.notSequence v.className)

/-- Where random samples come from, by what is told about them and by the samples listed. -/
def randomSource (given : Option Supplied) (listed : Value) : Except Fault RandomSource :=
  match given with
  | some (.function v) => .ok (.constant v)
  | some (.value .null) | none =>
    if !listed.isTruthy then .ok .byDefault
    else
      match listed.members? with
      | some items => .ok (.among items)
      | none => .error (.notSequence listed.className)
  | some (.value v) => .ok (.useless v.className)

/-- The sample value: the one given, the first of those listed, or a random one from a source that
is given; the rule itself has one where nothing is said. -/
def sampleValue (value listed : Value) (given : Option Supplied) : Except Fault (Option Value) :=
  match value with
  | .undefined => do
    match ← firstOf listed with
    | some first => return some first
    | none =>
      match given with
      | some (.function v) => return some v
      | some (.value .null) | none => return none
      | some (.value v) => throw (.notAFunction v.className)
  | v => .ok (some v)

/-- The options with the given names, or none if there are no names at all. -/
def ofFields (fields : Keywords) : Except Fault (Option SampleOptions) :=
  let unknown := ((fields.map (·.1)).filter (!names.contains ·)).eraseDups
  if fields.isEmpty then .ok none
  else if unknown.isEmpty then do
    let listed := (fields.value? "sample_values").getD .null
    let given := fields.lookup "random_sample"
    let value ← sampleValue ((fields.value? "sample_value").getD .undefined) listed given
    return some { value, random := ← randomSource given listed }
  else .error (.unknownSampleOptions (unknown.mergeSort fun a b => a ≤ b))

/-- A random sample: one from the source, or the default. -/
def randomSample (options : SampleOptions) (default : Gen Value) : Gen Value :=
  match options.random with
  | .byDefault => default
  | .constant v => return v
  | .among items => Gen.pick items
  | .useless className => throw (.notAFunction className)

end SampleOptions

/-- The sample value of a schema by what the user says, if anything, and by default. -/
def resolveSample (options : Option SampleOptions) (default : Value) : Value :=
  (options.bind (·.value)).getD default

/-- A random sample of a schema by what the user says, if anything, and by default. -/
def resolveRandom (options : Option SampleOptions) (default : Gen Value) : Gen Value :=
  match options with
  | none => default
  | some options => options.randomSample default

/-! ## Schemas -/

/-- A rule that a user brings along, with its type signature and its sample. -/
structure CustomRule where
  type : String
  sample : Value
  parse : Value → Context → Outcome Value

/-- What is asked of an array.  A value that is no array may count as an array of itself.  The flag
may be any value and is on if that counts as something; a bound need only be of use where an input
is held against it. -/
structure ArrayRule where
  minLength : Option Value := none
  maxLength : Option Value := none
  maybeSingle : Value := .bool false

/-- A description of acceptable inputs.  Where nothing needs it to be one, a part of it may also be
a plain value, which fails as soon as it is used. -/
inductive Schema where
  | leaf (leaf : Leaf) (samples : Option SampleOptions)
  | custom (rule : CustomRule)
  | object (fields : List (Value × Schema)) (samples : Option SampleOptions)
  | array (item : Schema) (rule : ArrayRule) (samples : Option SampleOptions)
  | single (item : Schema)
  | nullable (inner : Schema) (samples : Option SampleOptions)
  | optional (inner : Schema)
  | union (candidates : List Schema) (samples : Option SampleOptions)
  | dict (key value : Schema) (samples : Option SampleOptions)
  | plain (v : Value)

/-- How an object treats a field that is absent: as an error, by leaving it out, or as unchecked. -/
inductive Tag where
  | none
  | optional
  | checkbox
deriving DecidableEq, Repr

namespace Schema

/-- The tag of a schema. -/
def tag : Schema → Tag
  | .optional _ => .optional
  | .leaf .checkbox _ => .checkbox
  | _ => .none

/-- What the user says about the samples of a schema. -/
def samples : Schema → Option SampleOptions
  | .leaf _ samples | .object _ samples | .array _ _ samples | .nullable _ samples
  | .union _ samples | .dict _ _ samples => samples
  | .optional inner => inner.samples
  | .custom _ | .single _ | .plain _ => none

/-- Fails where a part of a schema is none itself. -/
def require : Schema → Except Fault Unit
  | .plain v => .error (.noSchema v.className)
  | _ => .ok ()

end Schema

end Intake
