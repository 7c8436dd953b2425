import Intake.Rule.Text
import Intake.Value.Equality

/-!
# Rules for fixed values

A literal accepts one value, an enumeration one of several.  What comes out is the expected value,
not the input that is the same.

## Main definitions

* `parseLiteral` — the one value that is accepted.
* `parseMember` — the member of an enumeration that an input is the same as.
-/

namespace Intake

/-- The one value that is accepted. -/
def parseLiteral (value : Value) (v : Value) (ctx : Context) : Outcome Value :=
  if v.same value then .ok value
  else do
    let type ← Outcome.ofFault value.json
    ctx.rejectKind (ctx.expected ("literal " ++ type)) v

/-- What an enumeration expects: all of its members, after the name of the input. -/
def memberType (members : List Value) (ctx : Context) : Except Fault Value :=
  if ctx.overrideType.isTruthy then .ok ctx.overrideType
  else do
    let subject ←
      if ctx.name.isTruthy then (" of " ++ ·) <$> ctx.name.json else .ok ""
    return .text ("enums value" ++ subject ++ ", expect " ++ (← (Value.list members).json))

/-- An input in the words of its rejection by an enumeration, which shows numbers and text as they
are. -/
def Value.describeExactly : Value → Except Fault String
  | .number n =>
    if n.isNaN then .ok (Value.number n).describe else n.write.mapError .digitLimit
  | .text s => .ok (if s.isEmpty then "empty string" else Text.quoteJson s)
  | v => .ok v.describe

/-- The member of an enumeration that an input is the same as. -/
def parseMember (members : List Value) (v : Value) (ctx : Context) : Outcome Value :=
  match members.find? v.same with
  | some member => .ok member
  | none => do
    let type ← Outcome.ofFault (memberType members ctx)
    let got ← Outcome.ofFault v.describeExactly
    ctx.rejectAs .null type (.text ("got " ++ got))

end Intake
