import Intake.Schema.Parse

/-!
# Notes on parsing

What a union writes down while it tries its candidates: one note for every candidate that rejects
the input.  The notes follow the parse through the schema and end where it ends.

## Main definitions

* `Note` — what is written down.
* `Schema.notes` — the notes of a parse.
-/

namespace Intake

/-- Something worth writing down that does not show in the answer. -/
inductive Note where
  /-- A candidate of a union, by its type, rejected the input. -/
  | rejectedCandidate (type message : String)
  /-- A field was inferred from a key with modifiers. -/
  | inferredField (name key : String) (enums nullable optional : Bool)
  /-- A record model was built. -/
  | builtModel (name : String) (attributes : List String)
deriving DecidableEq, Repr

/-- A truth value in a note. -/
def flagText (b : Bool) : String :=
  if b then "True" else "False"

/-- A note in words. -/
def Note.text : Note → String
  | .rejectedCandidate type message =>
    "Union candidate " ++ type ++ " rejected input: " ++ message
  | .inferredField name key enums nullable optional =>
    "Inferred field " ++ Text.quoteLiteral name ++ " from " ++ Text.quoteLiteral key
      ++ " (enums=" ++ flagText enums ++ ", nullable=" ++ flagText nullable ++ ", optional="
      ++ flagText optional ++ ")"
  | .builtModel name attributes =>
    "Generated pydantic model " ++ name ++ " with fields ["
      ++ joinWith ", " (attributes.map Text.quoteLiteral) ++ "]"

/-- Whether an outcome is a value. -/
def Outcome.isOk {α : Type} : Outcome α → Bool
  | .ok _ => true
  | .error _ => false

/-- The notes on the items of a list, up to the first that fails. -/
def notesWhile {α : Type} (isOk : α → Bool) (notes : α → List Note) : List α → List Note
  | [] => []
  | a :: as => notes a ++ if isOk a then notesWhile isOk notes as else []

namespace Schema

mutual

/-- The notes of a parse. -/
def notes (setting : Setting) : Schema → Value → Context → List Note
  | .leaf .., _, _ | .custom _, _, _ | .plain _, _, _ => []
  | .object fields _, v, ctx =>
    match v with
    | .dict entries => fieldNotes setting fields entries ctx
    | _ => []
  | .array item rule _, v, ctx =>
    match rule.items v ctx, ctx.item with
    | .ok items, .ok inner =>
      notesWhile (fun e => (item.parse setting e inner).isOk)
        (fun e => notes setting item e inner) items
    | _, _ => []
  | .single item, v, ctx =>
    let ctx := ctx.overriding (ctx.expected "singletonArray")
    match onlyItem v ctx, ctx.item with
    | .ok e, .ok ctx => notes setting item e ctx
    | _, _ => []
  | .nullable inner _, v, ctx =>
    match v, ctx.nonNull with
    | .null, _ | _, .error _ => []
    | _, .ok ctx => notes setting inner v ctx
  | .optional inner, v, ctx => notes setting inner v ctx
  | .union candidates _, v, ctx => candidateNotes setting candidates v ctx.candidate
  | .dict key value _, v, ctx =>
    let expected := ctx.expected "dict/record"
    match v, ctx.entrySide expected "in key", ctx.entrySide expected "in value" with
    | .dict entries, .ok keyContext, .ok valueContext =>
      notesWhile
        (fun entry => match key.parse setting entry.1 keyContext with
          | .ok k => k.isHashable && (value.parse setting entry.2 valueContext).isOk
          | .error _ => false)
        (fun entry => notes setting key entry.1 keyContext
          ++ if (key.parse setting entry.1 keyContext).isOk then
              notes setting value entry.2 valueContext
            else []) entries
    | _, _, _ => []

/-- The notes on the fields of an object. -/
def fieldNotes (setting : Setting) :
    List (Value × Schema) → List (Value × Value) → Context → List Note
  | [], _, _ => []
  | (key, schema) :: fields, entries, ctx =>
    match Presence.of schema.tag (Entries.get? key entries) with
    | .omitted | .known _ => fieldNotes setting fields entries ctx
    | .missing => []
    | .given v =>
      match ctx.child key with
      | .error _ => []
      | .ok child =>
        notes setting schema v child
          ++ if (schema.parse setting v child).isOk then fieldNotes setting fields entries ctx
            else []

/-- The notes on the candidates of a union. -/
def candidateNotes (setting : Setting) : List Schema → Value → Context → List Note
  | [], _, _ => []
  | schema :: schemas, v, ctx =>
    notes setting schema v ctx
      ++ match schema.parse setting v ctx with
        | .error (.rejected r) =>
          match schema.typeText with
          | .ok type => .rejectedCandidate type r.message :: candidateNotes setting schemas v ctx
          | .error _ => []
        | _ => []

end

end Schema

end Intake
