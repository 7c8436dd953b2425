import Intake.Value.Basic
import Intake.Calendar.Written
import Intake.Fault

/-!
# Values as text

How a value shows where it becomes part of a dotted name.  Text shows as itself and a date in its
canonical form; everything inside a container shows as the literal that would build it.

## Main definitions

* `Value.literal` — a value as a literal.
* `Value.display` — a value as plain text.
-/

namespace Intake

open Numeric (Number)
open Calendar (Moment Day Offset)
open Text (writeInt)

/-! ## Literals of single values -/

/-- Arguments between parentheses. -/
def callText (name : String) (arguments : List String) : String :=
  name ++ "(" ++ joinWith ", " arguments ++ ")"

/-- An offset as a literal: whole days below zero, and seconds that are never negative. -/
def offsetLiteral (offset : Offset) : String :=
  let seconds := offset.minutes * 60
  if seconds = 0 then "datetime.timezone.utc"
  else
    let days := if seconds < 0 then ["days=-1"] else []
    let rest := if seconds < 0 then seconds + 86400 else seconds
    callText "datetime.timezone"
      [callText "datetime.timedelta" (days ++ ["seconds=" ++ writeInt rest])]

/-- A day as a literal. -/
def dayLiteral (d : Day) : String :=
  callText "datetime.date" ([d.year, d.month, d.day].map fun n => writeInt (n : Nat))

/-- A moment as a literal: seconds and microseconds only where they or what follows are not zero,
and the fold only where a time is shown again. -/
def momentLiteral (m : Moment) : String :=
  let t := m.time
  let seconds :=
    if t.microsecond ≠ 0 then [t.second, t.microsecond]
    else if t.second ≠ 0 then [t.second] else []
  let fields := [m.day.year, m.day.month, m.day.day, t.hour, t.minute] ++ seconds
  let zone := match m.offset with
    | none => []
    | some offset => ["tzinfo=" ++ offsetLiteral offset]
  let fold := if m.fold then ["fold=1"] else []
  callText "datetime.datetime" (fields.map (fun n => writeInt (n : Nat)) ++ fold ++ zone)

/-- A pattern as a literal, with the names of its modes; a literal of the source is cut after 200
characters. -/
def patternLiteral (p : Pattern) : String :=
  let quoted := String.ofList ((Text.quoteLiteral p.source).toList.take 200)
  let modes := p.flags.names.map ("re." ++ ·)
  callText "re.compile" (quoted :: if modes.isEmpty then [] else [String.intercalate "|" modes])

/-- The text of a foreign value. -/
def foreignText (className : String) : String :=
  "<" ++ className ++ ">"

namespace Value

/-- A number as a literal. -/
def numberLiteral (n : Number) : Except Fault String :=
  n.writeLiteral.mapError .digitLimit

mutual

/-- A value as the literal that would build it. -/
def literal : Value → Except Fault String
  | .null => .ok "None"
  | .undefined => .ok "UNDEFINED"
  | .bool b => .ok (if b then "True" else "False")
  | .number n => numberLiteral n
  | .text s => .ok (Text.quoteLiteral s)
  | .list items => do
    return "[" ++ joinWith ", " (← literals items) ++ "]"
  | .tuple items => do
    match ← literals items with
    | [item] => return "(" ++ item ++ ",)"
    | texts => return "(" ++ joinWith ", " texts ++ ")"
  | .dict entries => do
    return "\x7b" ++ joinWith ", " (← entryLiterals entries) ++ "\x7d"
  | .moment m => .ok (momentLiteral m)
  | .day d => .ok (dayLiteral d)
  | .pattern p => .ok (patternLiteral p)
  | .foreign className _ => .ok (foreignText className)

/-- The literals of the items of a sequence. -/
def literals : List Value → Except Fault (List String)
  | [] => .ok []
  | item :: items => do
    return (← literal item) :: (← literals items)

/-- The literals of the entries of a dictionary. -/
def entryLiterals : List (Value × Value) → Except Fault (List String)
  | [] => .ok []
  | (key, value) :: entries => do
    let name ← literal key
    return (name ++ ": " ++ (← literal value)) :: (← entryLiterals entries)

end

/-- A value as plain text. -/
def display : Value → Except Fault String
  | .undefined => .ok "_Undefined.UNDEFINED"
  | .text s => .ok s
  | .moment m => .ok (m.writeWith " ")
  | .day d => .ok (Calendar.writeDate d)
  | v => v.literal

end Value

end Intake
