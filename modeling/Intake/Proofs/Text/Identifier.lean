import Intake.Text.Identifier
import Mathlib.Data.List.TakeWhile

/-!
# Characters of identifiers

What may begin an identifier may also stand further on in it, so an identifier is continued by
characters of the second class only.

## Main definitions

* `CodeRanges.within` — whether the intervals of one class lie in those of another.

## Main statements

* `isIdentifierRest_of_isIdentifierStart` — the first class lies in the second.
* `isIdentifierRest_of_mem` — the characters of an identifier.
* `isIdentifier_append` — the texts that go on an identifier.
-/

namespace Intake.Text

/-! ## Classes within classes -/

/-- Whether each interval lies in one of the other class.  Both go up, so an interval of the other
class is done with when the next one here is not in it. -/
def CodeRanges.within (ranges : CodeRanges) : CodeRanges → Bool
  | [] => ranges.isEmpty
  | wider :: rest =>
    CodeRanges.within (ranges.dropWhile fun r => wider.1 ≤ r.1 && r.2 ≤ wider.2) rest

theorem CodeRanges.contains_of_within {ranges widers : CodeRanges} (h : ranges.within widers = true)
    {c : Char} (hc : ranges.contains c = true) : widers.contains c = true := by
  induction widers generalizing ranges with
  | nil =>
    rw [List.isEmpty_iff.mp h] at hc
    cases hc
  | cons wider rest ih =>
    obtain ⟨range, hrange, hin⟩ := List.any_eq_true.mp hc
    rw [← List.takeWhile_append_dropWhile (p := fun r => wider.1 ≤ r.1 && r.2 ≤ wider.2)
      (l := ranges), List.mem_append] at hrange
    rcases hrange with hrange | hrange
    · have hwider := List.mem_takeWhile_imp hrange
      refine List.any_eq_true.mpr ⟨wider, List.mem_cons_self, ?_⟩
      simp only [Bool.and_eq_true, decide_eq_true_eq] at hin hwider ⊢
      omega
    · have hrest : CodeRanges.contains rest c = true :=
        ih h (List.any_eq_true.mpr ⟨range, hrange, hin⟩)
      obtain ⟨found, hfound, hin⟩ := List.any_eq_true.mp hrest
      exact List.any_eq_true.mpr ⟨found, List.mem_cons_of_mem _ hfound, hin⟩

/-! ## The two classes of identifiers -/

theorem identifierStartRanges_within :
    identifierStartRanges.within identifierRestRanges = true := by
  decide +kernel

theorem isIdentifierRest_lowLine : isIdentifierRest '_' = true := by
  decide +kernel

theorem isIdentifierRest_of_isIdentifierStart {c : Char} (h : isIdentifierStart c = true) :
    isIdentifierRest c = true := by
  rw [isIdentifierStart, Bool.or_eq_true, decide_eq_true_eq] at h
  rcases h with rfl | h
  · exact isIdentifierRest_lowLine
  · exact CodeRanges.contains_of_within identifierStartRanges_within h

/-! ## Identifiers -/

variable {cs ds : List Char}

theorem isIdentifierRest_of_mem (h : isIdentifier cs = true) {c : Char} (hc : c ∈ cs) :
    isIdentifierRest c = true := by
  cases cs with
  | nil => cases hc
  | cons first rest =>
    rw [isIdentifier, Bool.and_eq_true, List.all_eq_true] at h
    rcases List.mem_cons.mp hc with rfl | hc
    · exact isIdentifierRest_of_isIdentifierStart h.1
    · exact h.2 c hc

/-- An identifier is gone on with by what may stand in one after its beginning, and by nothing
else. -/
theorem isIdentifier_append (h : isIdentifier cs = true) :
    isIdentifier (cs ++ ds) = true ↔ ∀ d ∈ ds, isIdentifierRest d = true := by
  cases cs with
  | nil => cases h
  | cons first rest =>
    rw [isIdentifier, Bool.and_eq_true] at h
    rw [List.cons_append, isIdentifier, List.all_append, h.1, h.2, Bool.true_and, Bool.true_and,
      List.all_eq_true]

end Intake.Text
