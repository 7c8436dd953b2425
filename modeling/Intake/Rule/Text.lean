import Intake.Context
import Intake.Pattern.Match
import Intake.Text.Blank
import Intake.Value.Equality

/-!
# Rules for text

A text rule takes text as it is, or without the blanks around it, and writes numbers out as text.
It may ask for some text at all, for a length within bounds, and for a match of a pattern.

## Main definitions

* `TextRule` — what is asked of a text.
* `TextRule.parse` — the text that an input stands for.
-/

namespace Intake

/-- What is asked of a text.  A flag may be any value and is on if that counts as something; a bound
and a pattern need only be of use where an input is held against them. -/
structure TextRule where
  nonEmpty : Value := .bool false
  minLength : Option Value := none
  maxLength : Option Value := none
  pattern : Option Value := none
  trim : Value := .bool true

/-- Text without the blanks around it; other values stay as they are. -/
def Value.trimmed : Value → Value
  | .text s => .text (Text.trim s)
  | v => v

/-- Whether a value is the empty text. -/
def Value.isEmptyText : Value → Bool
  | .text s => s.isEmpty
  | _ => false

/-- The rejection of a value of the wrong kind. -/
def Context.rejectKind {α : Type} (ctx : Context) (expected : Value) (v : Value) : Outcome α :=
  ctx.reject expected ("got " ++ v.describe)

/-- The number that a value is compared by; truth values count as one and zero. -/
def Value.toNumber (v : Value) : Except Fault Numeric.Number :=
  match v.asNumber? with
  | some n => .ok n
  | none => .error (.notNumber v.className)

/-- A length bound in the words of a rejection. -/
def lengthReason (bound : String) (v : Value) : Except Fault String := do
  return bound ++ " should be " ++ (← v.display)

/-- Rejects a length outside of bounds. -/
def checkLength (ctx : Context) (expected : Value) (minLength maxLength : Option Value)
    (length : Nat) : Outcome Unit := do
  checkGiven minLength fun bound => do
    let least ← Outcome.ofFault bound.toNumber
    ctx.rejectIf (Numeric.Number.lt (.int length) least) expected (lengthReason "minLength" bound)
  checkGiven maxLength fun bound => do
    let most ← Outcome.ofFault bound.toNumber
    ctx.rejectIf (most.lt (.int length)) expected (lengthReason "maxLength" bound)

namespace TextRule

/-- A type with the word that asks for some text put before it once. -/
def nonEmptyType (type : Value) : Except Fault Value :=
  match type with
  | .text s =>
    .ok (.text (if "non-empty ".toList.isPrefixOf s.toList then s else "non-empty " ++ s))
  | v => .error (.withoutText v.className)

/-- What the rule expects. -/
def expected (rule : TextRule) (ctx : Context) : Except Fault Value :=
  let type := ctx.expected "string"
  if rule.nonEmpty.isTruthy then nonEmptyType type else .ok type

/-- The text of an input: text itself, or a number written out. -/
def read (ctx : Context) (expected : Value) : Value → Outcome String
  | .text s => .ok s
  | .number n =>
    if n.isNaN then ctx.rejectKind expected (.number n)
    else Outcome.ofFault (n.write.mapError .digitLimit)
  | v => ctx.rejectKind expected v

/-- Rejects a text that the pattern of the rule does not match. -/
def checkPattern (ctx : Context) (expected : Value) (pattern : Option Value) (s : String) :
    Outcome Unit :=
  checkGiven pattern fun pattern =>
    match pattern with
    | .pattern p => do
      let found ← Outcome.ofFault ((p.search s).mapError .badPattern)
      ctx.rejectIf (!found) expected (.ok ("should match " ++ Text.quoteJson p.source))
    | v => .error (.faulted (.notAPattern v.className))

/-- The text that an input stands for. -/
def parse (rule : TextRule) (v : Value) (ctx : Context) : Outcome String := do
  let v := if rule.trim.isTruthy then v.trimmed else v
  let expected ← Outcome.ofFault (rule.expected ctx)
  if rule.nonEmpty.isTruthy && v.isEmptyText then ctx.reject expected "got empty string"
  else
    let s ← read ctx expected v
    checkLength ctx expected rule.minLength rule.maxLength s.length
    checkPattern ctx expected rule.pattern s
    return s

end TextRule

end Intake
