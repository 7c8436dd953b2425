import Intake.Numeric.Number
import Intake.Calendar.Moment
import Intake.Pattern.Basic

/-!
# Values

The untyped values that a schema takes in and gives out: what a JSON document can hold, and beside
it absent values, tuples, dictionaries with keys of any kind, dates, patterns, and values that
nothing is known about but their class.

## Main definitions

* `Value` — a value.
* `Kind` — the kinds that a schema tells apart.
* `Value.describe`, `Value.typeName` — a value in the words of an error and of a type signature.
* `Value.items?`, `Value.members?` — what a value holds.
-/

namespace Intake

open Numeric (Number)
open Calendar (Moment Day)

/-- An untyped value.  The keys of a dictionary stand in the order of their insertion.  A foreign
value is known by its class, and an identity tells it from all others. -/
inductive Value where
  | null
  | undefined
  | bool (b : Bool)
  | number (n : Number)
  | text (s : String)
  | list (items : List Value)
  | tuple (items : List Value)
  | dict (entries : List (Value × Value))
  | moment (m : Moment)
  | day (d : Day)
  | pattern (p : Pattern)
  | foreign (className : String) (identity : Nat)

instance : Inhabited Value := ⟨.null⟩

/-- What a schema tells values apart by. -/
inductive Kind where
  | null
  | undefined
  | nan
  | bool
  | number
  | string
  | array
  | object
  | date
  | other
deriving DecidableEq, Repr

/-- The name of a kind. -/
def Kind.name : Kind → String
  | .null => "NULL"
  | .undefined => "UNDEFINED"
  | .nan => "NAN"
  | .bool => "BOOL"
  | .number => "NUMBER"
  | .string => "STRING"
  | .array => "ARRAY"
  | .object => "OBJECT"
  | .date => "DATE"
  | .other => "OTHER"

namespace Value

/-- An integer as a value. -/
def int (n : Int) : Value :=
  .number (.int n)

/-- The kind of a value. -/
def kind : Value → Kind
  | .null => .null
  | .undefined => .undefined
  | .bool _ => .bool
  | .number n => if n.isNaN then .nan else .number
  | .text _ => .string
  | .list _ | .tuple _ => .array
  | .dict _ => .object
  | .moment _ | .day _ => .date
  | .pattern _ | .foreign .. => .other

/-- The name of the class of a value. -/
def className : Value → String
  | .null => "NoneType"
  | .undefined => "_Undefined"
  | .bool _ => "bool"
  | .number (.int _) => "int"
  | .number (.float _) => "float"
  | .text _ => "str"
  | .list _ => "list"
  | .tuple _ => "tuple"
  | .dict _ => "dict"
  | .moment _ => "datetime"
  | .day _ => "date"
  | .pattern _ => "Pattern"
  | .foreign name _ => name

/-- A value in the words of an error: what was found where something else was expected. -/
def describe (v : Value) : String :=
  match v with
  | .null => "null"
  | .undefined => "undefined"
  | .bool b => if b then "boolean (true)" else "boolean (false)"
  | .number n => if n.isNaN then "NaN" else "number"
  | .text s => if s.isEmpty then "empty string" else "string"
  | .list _ | .tuple _ => "array"
  | .dict _ => "object"
  | .moment _ | .day _ => "date"
  | .pattern _ | .foreign .. => v.className

/-- The type of a value in the words of a type signature. -/
def typeName (v : Value) : String :=
  match v with
  | .bool _ => "boolean"
  | .number _ => "number"
  | .text _ => "string"
  | .moment _ | .day _ => "Date"
  | _ => v.describe

/-- The items of an array. -/
def items? : Value → Option (List Value)
  | .list items | .tuple items => some items
  | _ => none

/-- The members of a value that lists others: the items of an array, the characters of a text, the
keys of a dictionary. -/
def members? : Value → Option (List Value)
  | .list items | .tuple items => some items
  | .text s => some (s.toList.map fun c => .text (String.singleton c))
  | .dict entries => some (entries.map (·.1))
  | _ => none

/-- Whether a value counts as something: not absent, false, zero or empty. -/
def isTruthy : Value → Bool
  | .null | .undefined => false
  | .bool b => b
  | .number n => !n.isZero
  | .text s => !s.isEmpty
  | .list items | .tuple items => !items.isEmpty
  | .dict entries => !entries.isEmpty
  | .moment _ | .day _ | .pattern _ | .foreign .. => true

end Value

end Intake
