import Intake.Proofs.Leaf.Sampled
import Intake.Proofs.Numeric.Finite

/-!
# Numbers without their noise

A rule for numbers that asks for nothing else takes the noise of binary arithmetic away: it leaves
fifteen significant digits.  This keeps the order of the numbers.  Just below the largest number it
is no noise that goes: the fifteen digits are those of a number beyond the format.

## Main statements

* `Leaf.parse_number_ordered` — larger numbers are taken for larger ones, and finite numbers for
  finite ones if they are between the limits.
* `Leaf.not_forall_parse_number_finite` — the largest number is not.
-/

namespace Intake.Leaf

open Numeric (Number Binary64)

/-- Numbers are taken for numbers in their order.  These are finite for the numbers between the
limits and for no others: beyond them the fifteen digits of a number are a number beyond the
format. -/
theorem parse_number_ordered {x y : Binary64} (hle : (Number.float x).le (.float y) = true)
    (setting : Setting) (ctx : Context) :
    ∃ x' y', (Leaf.number {}).parse setting (.number (.float x)) ctx = .ok (.number (.float x')) ∧
      (Leaf.number {}).parse setting (.number (.float y)) ctx = .ok (.number (.float y')) ∧
      (Number.float x').le (.float y') = true ∧
      (x'.isFinite = true ↔ (Number.int (-Binary64.fifteenLimit)).lt (.float x) = true ∧
        (Number.float x).lt (.int Binary64.fifteenLimit) = true) ∧
      (y'.isFinite = true ↔ (Number.int (-Binary64.fifteenLimit)).lt (.float y) = true ∧
        (Number.float y).lt (.int Binary64.fifteenLimit) = true) := by
  obtain ⟨hx, hy⟩ := Number.isNaN_of_le hle
  exact ⟨_, _, parse_number hx, parse_number hy, Binary64.roundSignificant_le (by decide) hle,
    x.isFinite_roundSignificant_iff, y.isFinite_roundSignificant_iff⟩

/-- The last number below the limit stays finite, and the largest number does not. -/
theorem parse_number_ordered_limit :
    (Number.float Binary64.beforeLimit).le (.float Binary64.largest) = true ∧
    ∃ x' y', (Leaf.number {}).parse "en" (.number (.float Binary64.beforeLimit)) .root =
        .ok (.number (.float x')) ∧
      (Leaf.number {}).parse "en" (.number (.float Binary64.largest)) .root =
        .ok (.number (.float y')) ∧
      (Number.float x').le (.float y') = true ∧ x'.isFinite = true ∧ y'.isFinite ≠ true := by
  have hle : (Number.float Binary64.beforeLimit).le (.float Binary64.largest) = true := by
    decide +kernel
  obtain ⟨x', y', hx, hy, hle', hfinite, hinfinite⟩ := parse_number_ordered hle "en" .root
  exact ⟨hle, x', y', hx, hy, hle', hfinite.mpr (by decide +kernel),
    fun h => absurd (hinfinite.mp h) (by decide +kernel)⟩

/-- Not every finite number is taken for a finite one. -/
theorem not_forall_parse_number_finite : ¬ ∀ x y : Binary64, x.isFinite = true →
    y.isFinite = true → (Number.float x).le (.float y) = true →
    ∃ x' y', (Leaf.number {}).parse "en" (.number (.float x)) .root = .ok (.number (.float x')) ∧
      (Leaf.number {}).parse "en" (.number (.float y)) .root = .ok (.number (.float y')) ∧
      x'.isFinite = true ∧ y'.isFinite = true ∧ (Number.float x').le (.float y') = true := by
  intro h
  obtain ⟨x', -, hparse, -, hfinite, -⟩ := h .largest .largest rfl rfl (by decide +kernel)
  rw [parse_number rfl, Except.ok.injEq, Value.number.injEq, Number.float.injEq] at hparse
  exact absurd (hparse ▸ hfinite) (by decide +kernel)

end Intake.Leaf
