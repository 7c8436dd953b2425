import Intake.Value.Equality

/-!
# Dictionaries as lists of entries

The entries of a dictionary in the order in which their keys came in.  Putting a key that is
already there replaces the value and leaves the key and its place as they are.

## Main definitions

* `Entries` — the entries of a dictionary.
* `Entries.get?`, `Entries.put` — look-up and insertion.
* `Entries.ofList` — the dictionary that a list of entries builds, put in one after the other.
-/

namespace Intake

/-- Keys with what they are bound to, in the order of insertion. -/
abbrev Entries (α : Type) := List (Value × α)

namespace Entries

variable {α : Type}

/-- What a key is bound to. -/
def get? (key : Value) : Entries α → Option α
  | [] => none
  | (k, a) :: rest => if k.sameKey key then some a else get? key rest

/-- Binds a key: in its place if it is there already, at the end if it is new. -/
def put (key : Value) (a : α) : Entries α → Entries α
  | [] => [(key, a)]
  | (k, b) :: rest => if k.sameKey key then (k, a) :: rest else (k, b) :: put key a rest

/-- The dictionary that a list of entries builds. -/
def ofList (entries : List (Value × α)) : Entries α :=
  entries.foldl (fun built entry => built.put entry.1 entry.2) []

end Entries

end Intake
