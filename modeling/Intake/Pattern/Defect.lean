/-!
# Defects of patterns

Why a text is no pattern, or a pattern of no use.

## Main definitions

* `Defect` — the causes.
* `Defect.message` — a cause in words.
-/

namespace Intake.Pattern

/-- What is wrong with a pattern. -/
inductive Defect where
  /-- The text is malformed. -/
  | malformed
  /-- A number of repetitions is too large to be told from no bound. -/
  | tooManyRepetitions
  /-- A number of repetitions has too many digits. -/
  | numberTooLong
  /-- Both scripts are asked for at once. -/
  | twoScripts
  /-- A condition looks too far back. -/
  | looksTooFarBack
  /-- A group was found to end before it begins. -/
  | crossedGroup
deriving DecidableEq, Repr

/-- The defect in words. -/
def Defect.message : Defect → String
  | .malformed => "malformed pattern"
  | .tooManyRepetitions => "the repetition number is too large"
  | .numberTooLong => "a number of repetitions has too many digits"
  | .twoScripts => "a pattern cannot ask for both scripts"
  | .looksTooFarBack => "a condition looks too far back"
  | .crossedGroup => "a group ends before it begins"

end Intake.Pattern
