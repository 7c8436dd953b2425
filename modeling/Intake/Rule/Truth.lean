import Intake.Rule.Text

/-!
# Rules for truth values

Any input has a truth value, as forms and query strings write it.  A checkbox is stricter: it is
either on, or off by being empty or absent.

## Main definitions

* `Value.truth` — the truth value that an input stands for.
* `parseBoolean`, `parseCheckbox` — the truth value, if it is an acceptable one.
-/

namespace Intake

/-- The truth value that an input stands for: blank text and the word for false are false, and so
are absent values, not-a-number and zero. -/
def Value.truth : Value → Bool
  | .text s => Text.trim s ≠ "" && Text.trim s ≠ "false"
  | .null | .undefined => false
  | .bool b => b
  | .number n => !n.isNaN && !n.isZero
  | _ => true

/-- The truth value of an input, which may be asked to be a given one. -/
def parseBoolean (asked : Option Bool) (v : Value) (ctx : Context) : Outcome Bool :=
  match asked with
  | none => .ok v.truth
  | some b =>
    if v.truth = b then .ok b
    else
      let type := "boolean (expect: " ++ (if b then "true" else "false") ++ ")"
      ctx.rejectKind (ctx.expected type) v

/-- The state of a checkbox. -/
def parseCheckbox (v : Value) (ctx : Context) : Outcome Bool :=
  match v with
  | .undefined => .ok false
  | .text s =>
    if s = "on" then .ok true
    else if s.isEmpty then .ok false
    else ctx.rejectKind (ctx.expected "checkbox") v
  | _ => ctx.rejectKind (ctx.expected "checkbox") v

end Intake
