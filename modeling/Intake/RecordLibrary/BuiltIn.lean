import Intake.RecordLibrary

/-!
# The library at hand

A library of record models as the programs run it, with the names that it keeps for itself and what
becomes of fields that have these names all the same.

## Main definitions

* `BuiltIn.create`, `BuiltIn.read`, `BuiltIn.validate` — models, fields and payloads.
* `BuiltIn.library` — the library.
* `RecordModel.checked`, `RecordModel.validate` — a record model by this library.
-/

namespace Intake.BuiltIn

/-! ## Names -/

/-- The attributes by which a record is made and written, which no field can have. -/
def reservedNames : List String :=
  ["model_dump", "model_dump_json", "model_validate", "model_validate_json",
   "model_validate_strings"]

/-- The attribute that holds the settings of a record. -/
def settingsName : String := "model_config"

/-- The attribute that settings may also be given by; it says nothing where it stands alone. -/
def otherSettingsName : String := "Config"

/-- The attribute that is called as a function when a record is finished. -/
def finisherName : String := "model_post_init"

/-- Names that do not begin like those that the library keeps for itself. -/
def Admits (name : String) : Prop :=
  ¬ "model_".toList <+: name.toList
deriving Decidable

/-- Titles of models; there can be no null character in them. -/
def Titles (title : String) : Prop :=
  Char.ofNat 0 ∉ title.toList
deriving Decidable

/-! ## Models -/

/-- A model by its name and its fields. -/
structure Model where
  name : String
  fields : List FieldDeclaration

/-- What a field says where settings are expected; nothing of use if it is required or has an
alias. -/
def settings? (field : FieldDeclaration) : Option Value :=
  match field.alias? with
  | some _ => none
  | none => field.default?

/-- The field of an attribute. -/
def field? (fields : List FieldDeclaration) (name : String) : Option FieldDeclaration :=
  fields.find? fun field => field.name = name

/-- Fails where a field in the place of the settings is no good: it is read as if its default were
the settings, and only the default of a checkbox says nothing. -/
def checkSettings (fields : List FieldDeclaration) : Except Fault Unit :=
  match field? fields settingsName with
  | none => .ok ()
  | some field =>
    match settings? field with
    | some .null => .error .settingsAttribute
    | some _ => .ok ()
    | none =>
      match field? fields otherSettingsName with
      | some other => if (settings? other).isNone then .error .twoSettings else .error .badSettings
      | none => .error .badSettings

/-- A model with the fields that it can have. -/
def create (name : String) (declarations : List FieldDeclaration) : Except Fault Model := do
  checkSettings declarations
  unless Titles name do throw (.reservedAttribute name)
  let fields := declarations.filter fun field => field.name ≠ settingsName
  match fields.find? fun field => reservedNames.contains field.name with
  | some field => throw (.reservedAttribute field.name)
  | none => return { name, fields }

/-! ## Payloads -/

/-- What a field comes to: its value, or what is wrong with it. -/
def read (setting : Setting) (payload : List (Value × Value)) (field : FieldDeclaration) :
    Except Fault (Except FieldError Value) :=
  match Entries.get? (.text field.key) payload with
  | none =>
    match field.default? with
    | some v => .ok (.ok v)
    | none => .ok (.error ⟨"missing", "Field required"⟩)
  | some v =>
    match field.convert setting v with
    | .ok w => .ok (.ok w)
    | .error (.rejected r) => .ok (.error (.badValue r.message))
    | .error (.faulted fault) =>
      if fault.concernsValue then .ok (.error (.badValue fault.message)) else .error fault

/-- A record that is finished.  A value for the attribute that is called then makes that fail. -/
def finish (answer : RecordAnswer) : Except Fault RecordAnswer :=
  match answer with
  | .error errors => .ok (.error errors)
  | .ok attributes =>
    match attributes.lookup finisherName with
    | some v => .error (.notAFunction v.className)
    | none => .ok (.ok attributes)

/-- The attributes of a record with their values, or the errors with the keys that they concern. -/
def validate (setting : Setting) (model : Model) (payload : Value) : Except Fault RecordAnswer :=
  match payload with
  | .dict entries => do
    let results ← model.fields.mapM fun field => do
      return (field, ← read setting entries field)
    finish (.ofResults results)
  | _ =>
    let text := "Input should be a valid dictionary or instance of " ++ model.name
    .ok (.error [(none, ⟨"model_type", text⟩)])

/-- The library. -/
def library : RecordLibrary where
  Model := Model
  titles := Titles
  admits := Admits
  create := create
  fields := Model.fields
  read := read
  validate := validate

end Intake.BuiltIn

/-! ## Record models -/

namespace Intake.RecordModel

/-- A record model with the fields that the library leaves it. -/
def checked (model : RecordModel) : Except Fault RecordModel := do
  let made ← BuiltIn.create model.name model.declarations
  return { model with
           fields := model.fields.filter fun field => made.fields.any (·.name = field.name) }

/-- What the library makes of a payload. -/
def validate (setting : Setting) (model : RecordModel) (payload : Value) :
    Except Fault RecordAnswer :=
  BuiltIn.validate setting ⟨model.name, model.declarations⟩ payload

/-- The notes of a validation. -/
def notes (setting : Setting) (model : RecordModel) (payload : Value) : List Note :=
  match payload with
  | .dict entries =>
    notesWhile (fun field => (BuiltIn.read setting entries field.declaration).isOk)
      (fun field => match Entries.get? (.text field.key) entries with
        | some v => field.notes setting v
        | none => []) model.fields
  | _ => []

end Intake.RecordModel
