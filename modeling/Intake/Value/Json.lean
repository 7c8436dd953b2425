import Intake.Value.Basic
import Intake.Value.Display
import Intake.Calendar.Written
import Intake.Fault

/-!
# Values as JSON

The compact JSON text of a value, which error messages and type signatures quote.  Absent values
are null, dates are strings, and a foreign value is the string of its own text.

## Main definitions

* `Value.json` — the JSON text of a value.
-/

namespace Intake

open Numeric (Number)

namespace Value

/-- A number inside a JSON text. -/
def numberJson (n : Number) : Except Fault String :=
  n.writeJson.mapError .digitLimit

/-- A key of a dictionary as the key of a JSON object: a string without its quotes. -/
def jsonKey : Value → Except Fault String
  | .null => .ok "null"
  | .bool b => .ok (if b then "true" else "false")
  | .number n => numberJson n
  | .text s => .ok s
  | key => .error (.jsonKey key.className)

mutual

/-- The JSON text of a value. -/
def json : Value → Except Fault String
  | .null | .undefined => .ok "null"
  | .bool b => .ok (if b then "true" else "false")
  | .number n => numberJson n
  | .text s => .ok (Text.quoteJson s)
  | .list items | .tuple items => do
    return "[" ++ joinWith "," (← jsonItems items) ++ "]"
  | .dict entries => do
    return "\x7b" ++ joinWith "," (← jsonEntries entries) ++ "\x7d"
  | .moment m => .ok (Text.quoteJson m.write)
  | .day d => .ok (Text.quoteJson (Calendar.writeDate d))
  | .pattern p => .ok (Text.quoteJson (patternLiteral p))
  | .foreign className _ => .ok (Text.quoteJson (foreignText className))

/-- The JSON texts of the items of a sequence. -/
def jsonItems : List Value → Except Fault (List String)
  | [] => .ok []
  | item :: items => do
    return (← json item) :: (← jsonItems items)

/-- The members of a JSON object. -/
def jsonEntries : List (Value × Value) → Except Fault (List String)
  | [] => .ok []
  | (key, value) :: entries => do
    let name := Text.quoteJson (← jsonKey key)
    return (name ++ ":" ++ (← json value)) :: (← jsonEntries entries)

end

end Value

end Intake
