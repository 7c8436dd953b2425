import Intake.Numeric.Reading
import Intake.Numeric.Locale

/-!
# Numbers written for people

A number such as `3.5k` or `123 456.00`: spaces, hyphens and thousands separators are skipped, the
decimal mark is that of the locale, and one letter after the number multiplies it.

## Main definitions

* `ReadingError` — why a text is not such a number.
* `multiplier?` — the factor that a unit letter stands for.
* `readReadable` — the number that a text writes.
-/

namespace Intake.Numeric

/-- Why a text is not a number. -/
inductive ReadingError where
  | notANumber
  | unknownUnit (unit : Char)
  | digitLimit (limit : DigitLimit)
deriving DecidableEq, Repr

/-- The error as the reason of a rejection. -/
def ReadingError.reason : ReadingError → String
  | .notANumber => "got string"
  | .unknownUnit unit => "got unknown unit \"" ++ String.singleton unit ++ "\""
  | .digitLimit limit => limit.message

/-- The factor that a letter after a number stands for. -/
def multiplier? (unit : Char) : Option Nat :=
  match Text.lower unit with
  | 'k' => some (10 ^ 3)
  | 'm' => some (10 ^ 6)
  | 'b' => some (10 ^ 9)
  | 't' => some (10 ^ 12)
  | _ => none

/-- A number times a factor. -/
def Number.times (factor : Nat) : Number → Number
  | .int n => .int (n * factor)
  | .float x => .float (x.scaleBy false factor 1)

/-- The characters of a number without grouping and with a point as the decimal mark. -/
def ungroup (separator : Separator) (cs : List Char) : List Char :=
  let kept := cs.filter fun c => !Text.isBlank c && c ≠ '-'
  match separator with
  | .point => kept.filter (· ≠ ',')
  | .comma => (kept.filter (· ≠ '.')).map fun c => if c = ',' then '.' else c

/-- A plain number, with the limit on digits as a reading error. -/
def readPlain (cs : List Char) : Except ReadingError (Option Number) :=
  (readNumberChars cs).mapError .digitLimit

/-- The number that ungrouped characters write, which may end in a unit letter. -/
def readWithUnit (cs : List Char) : Except ReadingError Number := do
  match ← readPlain cs with
  | some n => .ok n
  | none =>
    match cs.getLast? with
    | none => .error .notANumber
    | some unit =>
      match ← readPlain cs.dropLast, multiplier? unit with
      | some n, some factor => .ok (n.times factor)
      | some _, none => .error (.unknownUnit unit)
      | none, _ => .error .notANumber

/-- The number that a text writes for people. -/
def readReadable (separator : Separator) (text : String) : Except ReadingError Number :=
  readWithUnit (ungroup separator text.toList)

end Intake.Numeric
