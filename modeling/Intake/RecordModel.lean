import Intake.Schema.Trace
import Intake.Schema.Details
import Intake.Text.Identifier

/-!
# Record models

An object schema as a record: every field has an attribute whose name is an identifier, and keeps
its key as an alias where the two differ.  The record itself is made by a library of such models,
which is told the fields: what to do with the value of each, and what it is by default.

## Main definitions

* `attributeName` — the name of an attribute, from a key.
* `RecordModel` — the fields of a record.
* `RecordModel.ofSchema` — the record of an object schema.
-/

namespace Intake

/-! ## Attributes -/

/-- The name of the attribute for a key.  A key that is a name and no private one stays as it is;
in any other, what cannot stand in a word becomes a low line, and leading low lines go. -/
def attributeName (key : String) : String :=
  let cs := key.toList
  if Text.isIdentifier cs && cs.head? ≠ some '_' then key
  else
    let words := cs.map fun c => if Text.isWord c then c else '_'
    let name := words.dropWhile (· = '_')
    if Text.isIdentifier name then String.ofList name else "field_" ++ String.ofList name

/-- A field of a record. -/
structure RecordField where
  name : String
  key : String
  schema : Schema

namespace RecordField

/-- The key of a field where it differs from the attribute. -/
def alias? (field : RecordField) : Option String :=
  if field.name = field.key then none else some field.key

/-- Whether a payload has to hold the field. -/
def isRequired (field : RecordField) : Bool :=
  field.schema.tag = .none

/-- The field for a key with a schema. -/
def ofEntry (key : Value) (schema : Schema) : Except Fault RecordField :=
  match key with
  | .text key => .ok ⟨attributeName key, key, schema⟩
  | key => .error (.withoutText key.className)

/-- The value of an attribute whose field is absent; there is none where the field is required. -/
def default? (field : RecordField) : Option Value :=
  match field.schema.tag with
  | .none => none
  | .optional => some .null
  | .checkbox => some (.bool false)

/-- The context in which the value of a field is parsed. -/
def context (field : RecordField) : Context where
  name := .text field.key

/-- The value of an attribute, from the value in a payload; null stands for itself in an optional
field. -/
def parse (setting : Setting) (field : RecordField) (v : Value) : Outcome Value :=
  match v, field.schema.tag with
  | .null, .optional => .ok .null
  | _, _ => field.schema.parse setting v field.context

/-- The notes of that parse. -/
def notes (setting : Setting) (field : RecordField) (v : Value) : List Note :=
  match v, field.schema.tag with
  | .null, .optional => []
  | _, _ => field.schema.notes setting v field.context

end RecordField

/-! ## Models -/

/-- A record by its name and its fields. -/
structure RecordModel where
  name : String
  fields : List RecordField

/-- Puts a field among others: in the place of one with the same attribute, or at the end. -/
def putField (field : RecordField) : List RecordField → List RecordField
  | [] => [field]
  | other :: fields =>
    if other.name = field.name then field :: fields else other :: putField field fields

namespace RecordModel

/-- The record of an object schema. -/
def ofSchema (name : String) (s : Schema) : Except Fault RecordModel :=
  match s.fields? with
  | none => .error .notAnObject
  | some fields => do
    let fields ← fields.mapM fun entry => RecordField.ofEntry entry.1 entry.2
    return ⟨name, fields.foldl (fun placed field => putField field placed) []⟩

/-- The note on a model that was built. -/
def note (model : RecordModel) : Note :=
  .builtModel model.name (model.fields.map (·.name))

end RecordModel

end Intake
