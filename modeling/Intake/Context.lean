import Intake.Outcome
import Intake.Value.Display

/-!
# Contexts

What a parse is told about the place of its input in a larger one: the name it goes by, and the
words that its error message puts around the expected type and the reason.

## Main definitions

* `Context` — the name and the words.
* `Context.child` — the context of a field.
* `Context.reject`, `Context.rejectIf` — the rejection of an input in its context.
-/

namespace Intake

/-- The place of an input.  What it holds is text as a rule, but may be a value of any class; null
stands for nothing. -/
structure Context where
  name : Value := .null
  typePrefix : Value := .null
  reasonSuffix : Value := .null
  overrideType : Value := .null

instance : Inhabited Context := ⟨{}⟩

namespace Context

/-- The context of an input that stands alone. -/
def root : Context := {}

/-- The context with one more of its four fields. -/
def putField (ctx : Context) (field : String × Value) : Except Fault Context :=
  match field.1 with
  | "name" => .ok { ctx with name := field.2 }
  | "type_prefix" => .ok { ctx with typePrefix := field.2 }
  | "reason_suffix" => .ok { ctx with reasonSuffix := field.2 }
  | "override_type" => .ok { ctx with overrideType := field.2 }
  | other => .error (.contextField other)

/-- The context that a value describes: nothing, or a dictionary of fields. -/
def ofValue (v : Value) : Except Fault Context :=
  match v with
  | .null => .ok root
  | .dict entries =>
    entries.foldlM (fun ctx entry => do ctx.putField (← phraseText entry.1, entry.2)) root
  | v => .error (.notAContext v.className)

/-- The context of a field: the name grows by the key, and all else is left behind. -/
def child (ctx : Context) (key : Value) : Except Fault Context := do
  if ctx.name.isTruthy then
    return { name := .text ((← ctx.name.display) ++ "." ++ (← key.display)) }
  else
    return { name := key }

/-- What is expected here: the type that overrides all others, or the given one. -/
def expectedOr (ctx : Context) (type : Value) : Value :=
  if ctx.overrideType.isTruthy then ctx.overrideType else type

/-- What is expected here: the type that overrides all others, or the named one. -/
def expected (ctx : Context) (type : String) : Value :=
  ctx.expectedOr (.text type)

/-- The context with another type in force. -/
def overriding (ctx : Context) (type : Value) : Context :=
  { ctx with overrideType := type }

/-- The rejection of an input that goes by the given name. -/
def rejectAs {α : Type} (ctx : Context) (name expectedType reason : Value)
    (errors : List Rejection := []) : Outcome α := do
  let rejection ← Outcome.ofFault
    (Rejection.build name ctx.typePrefix expectedType reason ctx.reasonSuffix errors)
  .error (.rejected rejection)

/-- The rejection of an input in its context. -/
def reject {α : Type} (ctx : Context) (expectedType : Value) (reason : String)
    (errors : List Rejection := []) : Outcome α :=
  ctx.rejectAs ctx.name expectedType (.text reason) errors

/-- Rejects an input that is bad.  The reason need not be writable where it is not. -/
def rejectIf (ctx : Context) (bad : Bool) (expectedType : Value)
    (reason : Except Fault String) : Outcome Unit :=
  if bad then Outcome.ofFault reason >>= fun text => ctx.reject expectedType text else .ok ()

end Context

/-- A check that is made only where there is something to check by. -/
def checkGiven {α : Type} (given : Option α) (check : α → Outcome Unit) : Outcome Unit :=
  match given with
  | none => .ok ()
  | some a => check a

end Intake
