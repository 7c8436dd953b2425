import Intake.RecordModel

/-!
# Libraries of record models

A record is made by a library.  It is told a name and the declarations of some fields, and answers
for a payload with the attributes of a record, or with all that is wrong with it.  What is known of
it are a few laws.

## Main definitions

* `FieldDeclaration` — a field, as a library is told of it.
* `RecordModel.declarations` — the fields of a record model.
* `RecordLibrary` — a library of record models.
* `RecordLibrary.Lawful` — what is asked of it.
-/

namespace Intake

/-! ## Declarations -/

/-- A field, as a library is told of it: the name of the attribute, a key of its own if the field
has one, the value where a payload has none, and what is made of a value that a payload has. -/
structure FieldDeclaration where
  name : String
  alias? : Option String
  default? : Option Value
  convert : Setting → Value → Outcome Value

/-- The key under which a payload has the field. -/
def FieldDeclaration.key (field : FieldDeclaration) : String :=
  field.alias?.getD field.name

/-- The declaration of a field: its value is parsed. -/
def RecordField.declaration (field : RecordField) : FieldDeclaration where
  name := field.name
  alias? := field.alias?
  default? := field.default?
  convert setting v := field.parse setting v

/-- The declarations of the fields of a record model. -/
def RecordModel.declarations (model : RecordModel) : List FieldDeclaration :=
  model.fields.map (·.declaration)

/-! ## Answers -/

/-- What is wrong with a payload or a field of it: a kind of error, and words. -/
structure FieldError where
  kind : String
  text : String
deriving DecidableEq, Repr

/-- The error of a field whose value is no good. -/
def FieldError.badValue (message : String) : FieldError :=
  ⟨"value_error", "Value error, " ++ message⟩

/-- The message of a failure that says that a value is no good; others end all that is going on. -/
def Failure.complaint? : Failure → Option String
  | .rejected r => some r.message
  | .faulted fault => if fault.concernsValue then some fault.message else none

/-- What is said about a payload: errors, each with the key of its field, or the attributes. -/
abbrev RecordAnswer :=
  Except (List (Option String × FieldError)) (List (String × Value))

namespace RecordAnswer

/-- The errors among what fields come to, in the order of the fields. -/
def errors (results : List (FieldDeclaration × Except FieldError Value)) :
    List (Option String × FieldError) :=
  results.filterMap fun result =>
    match result.2 with
    | .ok _ => none
    | .error e => some (some result.1.key, e)

/-- The attributes among what fields come to, in the order of the fields. -/
def attributes (results : List (FieldDeclaration × Except FieldError Value)) :
    List (String × Value) :=
  results.filterMap fun result =>
    match result.2 with
    | .ok v => some (result.1.name, v)
    | .error _ => none

/-- The answer about a payload from what its fields come to: the errors, if there are any, and else
the attributes. -/
def ofResults (results : List (FieldDeclaration × Except FieldError Value)) : RecordAnswer :=
  if (errors results).isEmpty then .ok (attributes results) else .error (errors results)

end RecordAnswer

/-! ## Libraries -/

/-- A library of record models.  Models have titles that suit it, and their attributes better do not
have its own names; it makes models, which keep their fields, reads the fields of a payload, and
answers for all of it. -/
structure RecordLibrary where
  Model : Type
  titles : String → Prop
  admits : String → Prop
  create : String → List FieldDeclaration → Except Fault Model
  fields : Model → List FieldDeclaration
  read : Setting → List (Value × Value) → FieldDeclaration → Except Fault (Except FieldError Value)
  validate : Setting → Model → Value → Except Fault RecordAnswer

namespace RecordLibrary

/-- What is asked of a library. -/
structure Lawful (lib : RecordLibrary) : Prop where
  /-- Fields of distinct names that the library admits make a model, which has just these. -/
  creates : ∀ name declarations, lib.titles name →
    (declarations.map FieldDeclaration.name).Nodup →
    (∀ field ∈ declarations, lib.admits field.name) →
    ∃ model, lib.create name declarations = .ok model ∧ lib.fields model = declarations
  /-- A field is read by its key, and no other key of the payload counts. -/
  reads_by_key : ∀ setting payload payload' field,
    Entries.get? (.text field.key) payload = Entries.get? (.text field.key) payload' →
    lib.read setting payload field = lib.read setting payload' field
  /-- A value that the payload has is converted. -/
  converts : ∀ setting payload field v w, Entries.get? (.text field.key) payload = some v →
    field.convert setting v = .ok w → lib.read setting payload field = .ok (.ok w)
  /-- A failure that says that the value is no good becomes an error of the field. -/
  reports : ∀ setting payload field v e message,
    Entries.get? (.text field.key) payload = some v → field.convert setting v = .error e →
    e.complaint? = some message →
    lib.read setting payload field = .ok (.error (.badValue message))
  /-- A default stands as it is where the payload has no value. -/
  defaults : ∀ setting payload field v, Entries.get? (.text field.key) payload = none →
    field.default? = some v → lib.read setting payload field = .ok (.ok v)
  /-- Where there is no default either, the field is missing. -/
  requires : ∀ setting payload field, Entries.get? (.text field.key) payload = none →
    field.default? = none →
    ∃ e, lib.read setting payload field = .ok (.error e) ∧ e.kind = "missing"
  /-- The answer is put together from the fields in their order; another failure ends it. -/
  answers_in_order : ∀ setting model payload, (∀ field ∈ lib.fields model, lib.admits field.name) →
    lib.validate setting model (.dict payload) = do
      let results ← (lib.fields model).mapM fun field => do
        return (field, ← lib.read setting payload field)
      return .ofResults results

end RecordLibrary

end Intake
