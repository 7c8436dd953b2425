import Intake.Value.Basic

/-!
# Equality of values

Three equalities.  The loose one compares numbers by their value and counts the truth values as the
numbers one and zero; what is not a number is equal to nothing.  The equality of keys, and of what
containers hold, is the loose one, but every value is the same as itself.  The strict one decides
whether an input is an expected value: there a truth value is no number.

## Main definitions

* `Value.looseEq` — equality of values by themselves.
* `Value.sameKey` — equality of keys.
* `Value.same` — equality of an input with an expected value.
* `Value.isHashable` — whether a value can be a key.
-/

namespace Intake

open Numeric (Number)

namespace Value

/-- The number that a value is equal to as a key. -/
def asNumber? : Value → Option Number
  | .bool b => some (.int (if b then 1 else 0))
  | .number n => some n
  | _ => none

/-- Whether both values are the same thing that is not a number. -/
def sameNaN : Value → Value → Bool
  | .number (.float (.nan a)), .number (.float (.nan b)) => a = b
  | _, _ => false

mutual

/-- Whether two values are equal.  Containers are compared item by item, dictionaries without regard
to order. -/
def looseEq : Value → Value → Bool
  | .null, .null => true
  | .undefined, .undefined => true
  | .bool a, .bool b => a = b
  | .bool a, .number n => n.eq (.int (if a then 1 else 0))
  | .number n, .bool b => n.eq (.int (if b then 1 else 0))
  | .number m, .number n => m.eq n
  | .text s, .text t => s = t
  | .list as, .list bs => looseEqItems as bs
  | .tuple as, .tuple bs => looseEqItems as bs
  | .dict as, .dict bs => as.length = bs.length && looseEqEntries as bs
  | .moment a, .moment b => a.same b
  | .day a, .day b => a = b
  | .pattern p, .pattern q => p.same q
  | .foreign _ i, .foreign _ j => i = j
  | _, _ => false

/-- Whether two sequences agree item by item. -/
def looseEqItems : List Value → List Value → Bool
  | [], [] => true
  | a :: as, b :: bs => (sameNaN a b || looseEq a b) && looseEqItems as bs
  | _, _ => false

/-- Whether each entry has a partner with the same key and the same value. -/
def looseEqEntries : List (Value × Value) → List (Value × Value) → Bool
  | [], _ => true
  | (key, value) :: as, bs =>
    bs.any (fun entry => (sameNaN key entry.1 || looseEq key entry.1)
        && (sameNaN value entry.2 || looseEq value entry.2))
      && looseEqEntries as bs

end

/-- Whether two values are the same as keys, or as items of containers. -/
def sameKey (a b : Value) : Bool :=
  sameNaN a b || looseEq a b

/-- Whether an input is the expected value.  A truth value is only the same truth value; numbers
are compared by their value, whatever their representation. -/
def same : Value → Value → Bool
  | .bool a, .bool b => a = b
  | .bool _, _ => false
  | _, .bool _ => false
  | a, b => looseEq a b

mutual

/-- Whether a value can be a key: it is not a list or a dictionary and holds none. -/
def isHashable : Value → Bool
  | .list _ | .dict _ => false
  | .tuple items => areHashable items
  | _ => true

/-- Whether all of the values can be keys. -/
def areHashable : List Value → Bool
  | [] => true
  | item :: items => isHashable item && areHashable items

end

end Value

end Intake
