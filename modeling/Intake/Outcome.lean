import Intake.Value.Json

/-!
# Outcomes

What a parse can come to: a value, a rejection that tells the client what is wrong with the input,
or a fault.

## Main definitions

* `Rejection` — what is wrong with an input, in parts and as one message.
* `joinPhrases` — two phrases of a message put together.
* `Failure`, `Outcome` — a rejection or a fault, and the result of a parse.
-/

namespace Intake

/-- What is wrong with an input.  The parts are kept beside the message that they make up, null
where there are none; a rejection by a union keeps those of its candidates. -/
inductive Rejection where
  | mk (message : String) (name : Value) (typePrefix : Value) (expectedType : String)
    (reason : String) (reasonSuffix : Value) (errors : List Rejection)

namespace Rejection

/-- The whole message. -/
def message : Rejection → String
  | .mk message .. => message

/-- The name of the input, null if it has none. -/
def name : Rejection → Value
  | .mk _ name .. => name

/-- The words before the expected type. -/
def typePrefix : Rejection → Value
  | .mk _ _ typePrefix .. => typePrefix

/-- What was expected. -/
def expectedType : Rejection → String
  | .mk _ _ _ expectedType .. => expectedType

/-- What was found instead. -/
def reason : Rejection → String
  | .mk _ _ _ _ reason .. => reason

/-- Where it was found. -/
def reasonSuffix : Rejection → Value
  | .mk _ _ _ _ _ reasonSuffix _ => reasonSuffix

/-- The rejections of the candidates of a union. -/
def errors : Rejection → List Rejection
  | .mk _ _ _ _ _ _ errors => errors

end Rejection

/-! ## Phrases -/

/-- The text of a phrase, which may be a value of any class. -/
def phraseText (phrase : Value) : Except Fault String :=
  match phrase with
  | .text s => .ok s
  | v => .error (.notText v.className)

/-- Two optional phrases with a space between, or whichever is there; a phrase that counts as
nothing is not there, but is the answer where the first is not there either. -/
def joinPhrases (a b : Value) : Except Fault Value :=
  if a.isTruthy && b.isTruthy then do
    return .text ((← phraseText a) ++ " " ++ (← phraseText b))
  else .ok (if a.isTruthy then a else b)

/-- A phrase with a space after it, if it is there. -/
def phraseBefore (phrase : Value) : Except Fault String :=
  if phrase.isTruthy then (· ++ " ") <$> phraseText phrase else .ok ""

/-- A phrase with a space before it, if it is there. -/
def phraseAfter (phrase : Value) : Except Fault String :=
  if phrase.isTruthy then (" " ++ ·) <$> phraseText phrase else .ok ""

/-- The name of an input as a part of its message, if it has one. -/
def nameClause (name : Value) : Except Fault String :=
  if name.isTruthy then (" " ++ ·) <$> name.json else .ok ""

/-- The rejection with the given parts. -/
def Rejection.build (name typePrefix expectedType reason reasonSuffix : Value)
    (errors : List Rejection) : Except Fault Rejection := do
  let before ← phraseBefore typePrefix
  let type ← phraseText expectedType
  let clause ← nameClause name
  let text ← phraseText reason
  let after ← phraseAfter reasonSuffix
  let message := "Invalid " ++ before ++ type ++ clause ++ ", " ++ text ++ after
  return .mk message name typePrefix type text reasonSuffix errors

/-! ## Outcomes -/

/-- Why a parse ends without a value. -/
inductive Failure where
  | rejected (rejection : Rejection)
  | faulted (fault : Fault)

/-- What a parse comes to. -/
abbrev Outcome (α : Type) := Except Failure α

/-- A computation that can only fail by a fault, as a part of a parse. -/
def Outcome.ofFault {α : Type} : Except Fault α → Outcome α
  | .ok a => .ok a
  | .error fault => .error (.faulted fault)

end Intake
