import Intake.Numeric.Binary64.Notation
import Intake.Text.DecimalDigit

/-!
# Numbers in a field

A number is written with a count of significant digits into a field of some width.  The layout of
the field is a text of its own: a side, a sign, a width, a separator of thousands and a count of
digits, each of which may be left out.

## Main definitions

* `Field` — the layout.
* `Layout.read` — the layout that a text asks for, which may be a count of digits alone.
* `Field.chars` — a number in a field.
-/

namespace Intake.Numeric

open Text (isDigit digitsValue)

/-! ## Layouts -/

/-- The place of a number in a field that is wider than it. -/
inductive Side where
  | left
  | right
  | middle
  | afterSign
deriving DecidableEq, Repr

/-- The layout of a field.  A number below zero has its sign in any case; a full number keeps its
point and the zeros at its end. -/
structure Field where
  side : Side
  plus : List Char
  plainZero : Bool
  full : Bool
  width : Nat
  separator : Option Char
  count : Nat
deriving DecidableEq, Repr

/-- Why a text is no layout, or of no use as one. -/
inductive FieldDefect where
  /-- A count of digits does not begin with a digit. -/
  | missingCount
  /-- A count of digits is not below `2 ^ 31`. -/
  | largeCount
  /-- A number is not below `2 ^ 63`. -/
  | tooManyDigits
  /-- There are two separators of thousands. -/
  | twoSeparators
  /-- Something stands after the layout. -/
  | malformed
deriving DecidableEq, Repr

/-- The side of a mark. -/
def Side.ofMark? : Char → Option Side
  | '<' => some .left
  | '>' => some .right
  | '^' => some .middle
  | '=' => some .afterSign
  | _ => none

/-- Splits off a run of digits; what they write is none without digits. -/
def splitNumber (cs : List Char) : Except FieldDefect (Option Nat × List Char) :=
  let digits := cs.takeWhile isDigit
  if digits.isEmpty then .ok (none, cs)
  else if 2 ^ 63 ≤ digitsValue digits then .error .tooManyDigits
  else .ok (some (digitsValue digits), cs.drop digits.length)

/-- The count of digits at the end of a layout. -/
def readCount (cs : List Char) : Except FieldDefect Nat := do
  match ← splitNumber cs with
  | (none, _) => throw .missingCount
  | (some count, rest) =>
    if !rest.isEmpty then throw .malformed
    else if 2 ^ 31 ≤ count then throw .largeCount
    else return max 1 count

/-- Splits off a character if it stands there. -/
def splitMark (c : Char) : List Char → Bool × List Char
  | [] => (false, [])
  | d :: cs => if d = c then (true, cs) else (false, d :: cs)

/-- Splits off a separator of thousands. -/
def splitSeparator (cs : List Char) : Except FieldDefect (Option Char × List Char) :=
  let (comma, rest) := splitMark ',' cs
  let (line, rest) := splitMark '_' rest
  if line && (comma || rest.head? = some ',') then .error .twoSeparators
  else .ok (if comma then some ',' else if line then some '_' else none, rest)

/-- The layout that a text asks for after its side. -/
def Field.readAfter (side : Side) (cs : List Char) : Except FieldDefect Field := do
  let (plus, rest) := match cs with
    | '+' :: rest => (['+'], rest)
    | ' ' :: rest => ([' '], rest)
    | '-' :: rest => ([], rest)
    | rest => ([], rest)
  let (plainZero, rest) := splitMark 'z' rest
  let (full, rest) := splitMark '#' rest
  let (width, rest) ← splitNumber rest
  let (separator, rest) ← splitSeparator rest
  let count ← match rest with
    | [] => pure 6
    | '.' :: rest => readCount rest
    | _ => throw .malformed
  return { side, plus, plainZero, full, width := width.getD 0, separator, count }

/-- How a number is to be written: with a count of digits, or into a field. -/
inductive Layout where
  | digits (count : Nat)
  | field (field : Field)
deriving DecidableEq, Repr

/-- The layout that a text asks for: a count of digits alone, or a side and what may follow it. -/
def Layout.read (cs : List Char) : Except FieldDefect Layout :=
  match cs.head?.bind Side.ofMark? with
  | some side => .field <$> Field.readAfter side (cs.drop 1)
  | none => .digits <$> readCount cs

/-! ## Numbers in a field -/

/-- The digits of a number and the power of ten of the first: so many as are asked for, or fewer
where only zeros follow and they need not stand there. -/
def significantDigits (full : Bool) (count : Nat) : Binary64 → List Char × Int
  | .finite _ mantissa exponent _ =>
    if mantissa = 0 then (List.replicate (if full then count else 1) '0', 0)
    else
      let num := mantissa * 2 ^ exponent
      let kept := min count 1100
      let point := decimalPoint num Binary64.unitsPerOne
      let ratio := powerRatio num Binary64.unitsPerOne (point - kept)
      let digits := Text.digits (roundHalfEven ratio.1 ratio.2)
      let zeros := if full then List.replicate (count - kept) '0' else []
      (digits.take kept ++ zeros, point - 1 + (digits.length - kept : Nat))
  | _ => ([], 0)

/-- Digits after the point, with the point, as far as they are to be written. -/
def placesChars (full : Bool) (digits : List Char) : List Char :=
  let kept := if full then digits else (digits.reverse.dropWhile (· = '0')).reverse
  if full || !kept.isEmpty then '.' :: kept else []

/-- The digits before the point of a number, and the rest of it.  A number is written positionally
if its first digit is not too far from the point. -/
def generalChars (full : Bool) (count : Nat) (x : Binary64) : List Char × List Char :=
  let (digits, first) := significantDigits full count x
  if -4 ≤ first && first < count then
    if first < 0 then (['0'], placesChars full (List.replicate (-first - 1).toNat '0' ++ digits))
    else (digits.take (first.toNat + 1), placesChars full (digits.drop (first.toNat + 1)))
  else
    let sign := if first < 0 then '-' else '+'
    (digits.take 1,
      placesChars full (digits.drop 1) ++ 'e' :: sign :: Text.paddedChars 2 first.natAbs)

/-- Digits with a separator before every third from the end. -/
def grouped (separator : Char) (digits : List Char) : List Char :=
  (digits.zipIdx.flatMap fun (c, i) =>
    if i ≠ 0 && (digits.length - i) % 3 = 0 then [separator, c] else [c])

namespace Field

/-- The sign of a number. -/
def signChars (field : Field) : Binary64 → List Char
  | .nan _ => field.plus
  | .infinite negative => if negative then ['-'] else field.plus
  | .finite negative mantissa _ _ =>
    if negative && !(field.plainZero && mantissa = 0) then ['-'] else field.plus

/-- A number without its sign. -/
def bodyChars (field : Field) (x : Binary64) : List Char :=
  match x with
  | .nan _ => ['n', 'a', 'n']
  | .infinite _ => ['i', 'n', 'f']
  | .finite .. =>
    let (whole, rest) := generalChars field.full field.count x
    (match field.separator with
      | some separator => grouped separator whole
      | none => whole) ++ rest

/-- A number in a field, which is filled up with points. -/
def chars (field : Field) (x : Binary64) : List Char :=
  let sign := field.signChars x
  let body := field.bodyChars x
  let space := field.width - (sign.length + body.length)
  let points := fun n : Nat => List.replicate n '.'
  match field.side with
  | .left => sign ++ body ++ points space
  | .right => points space ++ sign ++ body
  | .middle => points (space / 2) ++ sign ++ body ++ points (space - space / 2)
  | .afterSign => sign ++ points space ++ body

end Field

end Intake.Numeric
