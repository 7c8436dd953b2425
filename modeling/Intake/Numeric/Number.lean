import Intake.Numeric.Binary64.Notation

/-!
# Numbers

A number is an integer of any size or a binary floating-point number.  Both kinds are compared by
their exact values.

## Main definitions

* `Number` — an integer or a binary number.
* `Number.place?` — where a number stands on the extended line.
* `Number.lt`, `Number.eq` — exact comparison; not-a-number is neither below nor equal to anything.
* `Number.write` — a number as a JSON payload would show it.
* `DigitLimit` — the refusal to read or write an integer of too many digits.
-/

namespace Intake.Numeric

/-! ## The limit on digits -/

/-- The most digits of an integer that are read or written. -/
def maxDigits : Nat := 4300

/-- An integer has too many digits. -/
inductive DigitLimit where
  /-- A text has this many digits. -/
  | reading (digits : Nat)
  /-- An integer would have too many digits. -/
  | writing
deriving DecidableEq, Repr

/-- The limit in words. -/
def DigitLimit.message : DigitLimit → String
  | .reading digits =>
    "Exceeds the limit (4300 digits) for integer string conversion: value has "
      ++ Text.writeInt digits ++ " digits; use sys.set_int_max_str_digits() to increase the limit"
  | .writing =>
    "Exceeds the limit (4300 digits) for integer string conversion; "
      ++ "use sys.set_int_max_str_digits() to increase the limit"

/-- An integer in decimal notation, unless it has too many digits. -/
def writeInteger (n : Int) : Except DigitLimit String :=
  if (Text.digits n.natAbs).length ≤ maxDigits then .ok (Text.writeInt n) else .error .writing

/-! ## Numbers -/

/-- An integer or a binary number. -/
inductive Number where
  | int (n : Int)
  | float (x : Binary64)
deriving DecidableEq

/-- A place on the line of the numbers, with an end on either side; the distance is counted in
units of `2 ^ (-1074)`. -/
inductive Place where
  | bottom
  | finite (units : Int)
  | top
deriving DecidableEq

/-- Whether a place comes before another. -/
def Place.lt : Place → Place → Bool
  | .bottom, .bottom => false
  | .bottom, _ => true
  | .finite a, .finite b => a < b
  | .finite _, .top => true
  | _, _ => false

/-- The place of a binary number; not-a-number has none. -/
def Binary64.place? : Binary64 → Option Place
  | .nan _ => none
  | .infinite true => some .bottom
  | .infinite false => some .top
  | .finite negative mantissa exponent _ =>
    some (.finite (withSign negative (mantissa * 2 ^ exponent)))

namespace Number

/-- The place of a number; not-a-number has none. -/
def place? : Number → Option Place
  | .int n => some (.finite (n * Binary64.unitsPerOne))
  | .float x => x.place?

/-- Whether a number is below another. -/
def lt (a b : Number) : Bool :=
  match a.place?, b.place? with
  | some p, some q => p.lt q
  | _, _ => false

/-- Whether two numbers have the same value. -/
def eq (a b : Number) : Bool :=
  match a.place?, b.place? with
  | some p, some q => p = q
  | _, _ => false

/-- Whether a number is at most another. -/
def le (a b : Number) : Bool :=
  a.lt b || a.eq b

/-- Whether the number is not-a-number. -/
def isNaN : Number → Bool
  | .float (.nan _) => true
  | _ => false

/-- Whether the number has the value zero. -/
def isZero (a : Number) : Bool :=
  a.eq (.int 0)

/-- The number rounded to fifteen significant digits, which takes the noise of binary arithmetic
away; integers stay as they are. -/
def withoutNoise : Number → Number
  | .int n => .int n
  | .float x => .float (x.roundSignificant 15)

/-- The binary number nearest to a number, if the number is not too large. -/
def toBinary64? : Number → Option Binary64
  | .int n => Binary64.ofInt? n
  | .float x => some x

/-! ## Written numbers -/

/-- A number as a JSON payload would show it: a whole binary number below `10 ^ 21` has no
decimal point. -/
def write : Number → Except DigitLimit String
  | .int n => writeInteger n
  | .float (.infinite negative) => .ok (if negative then "-Infinity" else "Infinity")
  | .float x =>
    match x.toInt? with
    | some n => if n.natAbs < 10 ^ 21 then .ok (Text.writeInt n) else .ok x.write
    | none => .ok x.write

/-- A number inside a JSON text; a whole binary number keeps its decimal point. -/
def writeJson : Number → Except DigitLimit String
  | .int n => writeInteger n
  | .float (.nan _) => .ok "NaN"
  | .float (.infinite negative) => .ok (if negative then "-Infinity" else "Infinity")
  | .float x => .ok x.write

/-- A number as a diagnostic shows it. -/
def writeLiteral : Number → Except DigitLimit String
  | .int n => writeInteger n
  | .float x => .ok x.write

end Number

end Intake.Numeric
