import Intake.Rule.Rounding
import Intake.Numeric.Readable

/-!
# Rules for numbers

A number is taken as it is or read from text; it may be asked to lie within bounds.  A float is a
number as a binary one, with its digits cut; an int is a number without a fraction.

## Main definitions

* `NumberRule`, `FloatRule` — what is asked of a number.
* `NumberRule.parse`, `FloatRule.parse`, `NumberRule.parseInt`, `parseId` — the number that an
  input stands for.
-/

namespace Intake

open Numeric (Number Binary64 decimalSeparator readNumber readReadable)

/-- What is asked of a number.  Numbers written for people are read by the locale of the rule, or
by the active one where the rule has none.  A flag may be any value and is on if that counts as
something; a bound and a locale need only be of use where an input is held against them. -/
structure NumberRule where
  min : Option Value := none
  max : Option Value := none
  readable : Value := .bool false
  locale : Option Value := none
  roundError : Value := .bool true

/-- What is asked of a binary number: a count of decimal places, and one of significant digits. -/
structure FloatRule where
  number : NumberRule := {}
  toFixed : Option Value := none
  toPrecision : Option Value := none

/-- A value as a message shows it: a number as a JSON payload would, all else as a literal. -/
def Value.exactText : Value → Except Fault String
  | .number n => n.write.mapError .digitLimit
  | v => v.literal

/-- A bound on a number in the words of a rejection. -/
def boundReason (bound : String) (v : Value) : Except Fault String := do
  return bound ++ " value should be " ++ (← v.exactText)

/-- The decimal mark of the locale that a value names. -/
def Value.separator : Value → Except Fault Numeric.Separator
  | .text s => .ok (decimalSeparator s)
  | .moment m => .error (.notText (Value.moment m).className)
  | .day d => .error (.notText (Value.day d).className)
  | v => .error (.withoutText v.className)

namespace NumberRule

/-- The decimal mark of the locale in force. -/
def separator (rule : NumberRule) (active : String) : Except Fault Numeric.Separator :=
  match rule.locale with
  | some locale => if locale.isTruthy then locale.separator else .ok (decimalSeparator active)
  | none => .ok (decimalSeparator active)

/-- The number that a text writes. -/
def readText (rule : NumberRule) (active : String) (ctx : Context) (expected : Value)
    (s : String) : Outcome Number :=
  if rule.readable.isTruthy then do
    let separator ← Outcome.ofFault (rule.separator active)
    match readReadable separator s with
    | .ok n => return n
    | .error e => ctx.reject expected e.reason
  else
    match readNumber s with
    | .ok (some n) => .ok n
    | .ok none => ctx.rejectKind expected (.text s)
    | .error limit => .error (.faulted (.digitLimit limit))

/-- The number of an input. -/
def read (rule : NumberRule) (active : String) (ctx : Context) (expected : Value) :
    Value → Outcome Number
  | .number n => if n.isNaN then ctx.rejectKind expected (.number n) else .ok n
  | .text s =>
    if (Text.trim s).isEmpty then ctx.rejectKind expected (.text s)
    else rule.readText active ctx expected s
  | v => ctx.rejectKind expected v

/-- Rejects a number outside of the bounds. -/
def checkBounds (rule : NumberRule) (ctx : Context) (expected : Value) (n : Number) :
    Outcome Unit := do
  checkGiven rule.min fun bound => do
    let least ← Outcome.ofFault bound.toNumber
    ctx.rejectIf (n.lt least) expected (boundReason "min" bound)
  checkGiven rule.max fun bound => do
    let most ← Outcome.ofFault bound.toNumber
    ctx.rejectIf (most.lt n) expected (boundReason "max" bound)

/-- The number that an input stands for. -/
def parse (rule : NumberRule) (active : String) (v : Value) (ctx : Context) : Outcome Number := do
  let expected := ctx.expected "number"
  let n ← rule.read active ctx expected v
  let n := if rule.roundError.isTruthy then n.withoutNoise else n
  rule.checkBounds ctx expected n
  return n

/-- The integer that an input stands for. -/
def parseInt (rule : NumberRule) (active : String) (v : Value) (ctx : Context) : Outcome Int := do
  let expected := ctx.expected "int"
  match ← rule.parse active v (ctx.overriding expected) with
  | .int n => return n
  | .float x =>
    match x.toInt? with
    | some n => return n
    | none => ctx.reject expected "got floating point number"

end NumberRule

/-- The rule for keys that a database counts up: positive integers. -/
def idRule : NumberRule := { min := some (.int 1) }

/-- The key that an input stands for.  Its type is always reported as `id`. -/
def parseId (active : String) (v : Value) (ctx : Context) : Outcome Int :=
  idRule.parseInt active v (ctx.overriding (.text "id"))

namespace FloatRule

/-- A binary number with its digits cut as the rule asks: first its decimal places, then its
significant digits. -/
def cut (rule : FloatRule) (x : Binary64) : Except Fault Binary64 := do
  let x ← match rule.toFixed with
    | none => pure x
    | some places => roundPlacesBy places x
  match rule.toPrecision with
  | none => return x
  | some count => roundSignificantBy count x

/-- The binary number that an input stands for. -/
def parse (rule : FloatRule) (active : String) (v : Value) (ctx : Context) : Outcome Binary64 := do
  let n ← rule.number.parse active v (ctx.overriding (ctx.expected "float"))
  match n.toBinary64? with
  | none => .error (.faulted .integerTooLarge)
  | some x => Outcome.ofFault (rule.cut x)

end FloatRule

end Intake
