import Intake.Schema.Build
import Intake.Schema.Trace

/-!
# Schemas inferred from samples

The most specific schema of a sample value.  The keys of a sample object may end in modifiers, in
any order: an enumeration is given by the list of its members, and fields may be nullable or
optional.

## Main definitions

* `Modifier`, `Modifiers` — what the end of a key says about its field.
* `peel` — a key without its modifiers.
* `Schema.infer`, `Schema.inferField` — the schema of a sample, and the field of a sample entry.
* `Schema.inferNotes` — what is written down on the way.
-/

namespace Intake

open Numeric (Number)

/-! ## Modifiers -/

/-- What the end of a key may say. -/
inductive Modifier where
  | enums
  | nullable
  | optional
deriving DecidableEq, Repr

/-- The ways to write a modifier, the one to be tried first before the other. -/
def Modifier.suffixes : Modifier → List String
  | .enums => ["$enums", "$enum"]
  | .nullable => ["$nullable", "$null"]
  | .optional => ["$optional", "?"]

/-- The way in which a modifier is written at the end of a name, if it is. -/
def Modifier.suffix? (m : Modifier) (name : List Char) : Option String :=
  m.suffixes.find? fun suffix => suffix.toList.isSuffixOf name

/-- The modifiers of a field. -/
structure Modifiers where
  enums : Bool := false
  nullable : Bool := false
  optional : Bool := false
deriving DecidableEq, Repr

/-- The modifiers with one more. -/
def Modifiers.with (ms : Modifiers) : Modifier → Modifiers
  | .enums => { ms with enums := true }
  | .nullable => { ms with nullable := true }
  | .optional => { ms with optional := true }

/-- The modifier at the end of a name and the name without it.  An enumeration has to be given by a
list. -/
def peelOne? (listed : Bool) (name : List Char) : Option (Modifier × List Char) :=
  let kinds := if listed then [Modifier.enums, .nullable, .optional] else [.nullable, .optional]
  kinds.findSome? fun m =>
    (m.suffix? name).map fun suffix => (m, name.take (name.length - suffix.length))

/-- Takes at most `fuel` modifiers off the end of a name. -/
def peelFrom (listed : Bool) : Nat → List Char → Modifiers → List Char × Modifiers
  | 0, name, ms => (name, ms)
  | fuel + 1, name, ms =>
    match peelOne? listed name with
    | some (m, rest) => peelFrom listed fuel rest (ms.with m)
    | none => (name, ms)

/-- A name without the modifiers at its end, and what they say. -/
def peel (listed : Bool) (name : List Char) : List Char × Modifiers :=
  peelFrom listed name.length name {}

/-! ## Fields -/

namespace Schema

/-- The enumeration of the members of a list, any of which is a sample. -/
def enumerationOf (members : List Value) : Except Fault Schema :=
  ofMembers members [("sample_values", .value (.list members))]

/-- A schema with what the modifiers of its field say. -/
def modified (ms : Modifiers) (s : Schema) : Except Fault Schema := do
  let s ← if ms.nullable then nullableOf s [] else pure s
  return if ms.optional then .optional s else s

/-- The field of an entry of a sample object, whose value has the given schema by itself. -/
def fieldOf (key v : Value) (inferred : Except Fault Schema) : Except Fault (Value × Schema) :=
  match key with
  | .text name => do
    let (name, ms) := peel v.items?.isSome name.toList
    let s ← if ms.enums then enumerationOf (v.items?.getD []) else inferred
    return (.text (String.ofList name), ← modified ms s)
  | _ => do
    return (key, ← inferred)

/-! ## Samples -/

/-- A leaf whose sample value is known. -/
def sampled (leaf : Leaf) (v : Value) : Schema :=
  .leaf leaf (some { value := some v })

/-- The schema of a sample number: an integer if it is one, a float if it is finite. -/
def inferNumber (n : Number) : Schema :=
  match n with
  | .int _ => sampled (.int {}) (.number n)
  | .float x =>
    match x.toInt? with
    | some m => sampled (.int {}) (.int m)
    | none =>
      if x.isFinite then sampled (.float {}) (.number n) else sampled (.number {}) (.number n)

mutual

/-- The schema of a sample. -/
def infer : Value → Except Fault Schema
  | .bool _ => .ok (.leaf (.boolean none) none)
  | .text s => .ok (sampled (.string {}) (.text s))
  | .number n => .ok (inferNumber n)
  | .moment m => .ok (sampled (.date {}) (.moment m))
  | .day d => .ok (sampled (.date {}) (.day d))
  | .list items | .tuple items => do
    arrayOf (← inferFirst items) {} []
  | .dict entries => do
    let fields ← inferFields entries
    return .object (Entries.ofList fields) (some { value := some (.dict entries) })
  | v => do
    .error (.unsupportedSample (← v.json))

/-- The schema of the first of some samples. -/
def inferFirst : List Value → Except Fault Schema
  | [] => .error .emptySample
  | v :: _ => infer v

/-- The fields of a sample object. -/
def inferFields : List (Value × Value) → Except Fault (List (Value × Schema))
  | [] => .ok []
  | (key, v) :: entries => do
    let field ← fieldOf key v (infer v)
    return field :: (← inferFields entries)

end

/-- The field of an entry of a sample object. -/
def inferField (key v : Value) : Except Fault (Value × Schema) :=
  fieldOf key v (infer v)

/-! ## Notes -/

/-- The note on a key with modifiers.  Members of an enumeration have to be acceptable before
anything is written down. -/
def keyNotes (key v : Value) : List Note :=
  match key with
  | .text key =>
    let (name, ms) := peel v.items?.isSome key.toList
    let isReady := !ms.enums || (enumerationOf (v.items?.getD [])).isOk
    if isReady && name ≠ key.toList then
      [.inferredField (String.ofList name) key ms.enums ms.nullable ms.optional]
    else []
  | _ => []

/-- Whether the schema of an entry is that of its value. -/
def isInferred (key v : Value) : Bool :=
  match key with
  | .text key => !(peel v.items?.isSome key.toList).2.enums
  | _ => true

mutual

/-- The notes on the inference of a schema. -/
def inferNotes : Value → List Note
  | .list items | .tuple items => firstNotes items
  | .dict entries => entryNotes entries
  | _ => []

/-- The notes on the first of some samples. -/
def firstNotes : List Value → List Note
  | [] => []
  | v :: _ => inferNotes v

/-- The notes on the entries of a sample object, up to the first that fails. -/
def entryNotes : List (Value × Value) → List Note
  | [] => []
  | (key, v) :: entries =>
    keyNotes key v ++ (if isInferred key v then inferNotes v else [])
      ++ if (inferField key v).isOk then entryNotes entries else []

end

/-- The notes on the inference of a field. -/
def inferFieldNotes (key v : Value) : List Note :=
  keyNotes key v ++ if isInferred key v then inferNotes v else []

end Schema

end Intake
