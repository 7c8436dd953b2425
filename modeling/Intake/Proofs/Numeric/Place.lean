import Intake.Numeric.Number

/-!
# Numbers by their places

Numbers of both kinds are compared by the places where they stand.  Integers compare as integers,
and a binary number that equals one stands in the same place.

## Main statements

* `Number.eq_iff` — equal numbers stand in one place.
* `Number.lt_int`, `Number.eq_int` — the comparison of integers.
* `Binary64.isNaN_ofRatio`, `Binary64.isNaN_ofDecimal` — rounding gives a number.
* `place?_of_toInt?` — the place of a whole binary number.
-/

namespace Intake.Numeric

theorem Binary64.unitsPerOne_pos : 0 < Binary64.unitsPerOne := by
  unfold unitsPerOne
  exact Nat.two_pow_pos 1074

namespace Number

-- The number of units in one is too large to be computed with, so it stays a name from here on.
theorem place?_int (n : Int) :
    (Number.int n).place? = some (.finite (n * Binary64.unitsPerOne)) := by
  rw [place?]

theorem eq_iff {m n : Number} : m.eq n = true ↔ ∃ p, m.place? = some p ∧ n.place? = some p := by
  unfold Number.eq
  cases hm : m.place? <;> cases hn : n.place? <;> simp [eq_comm]

theorem eq_comm (m n : Number) : m.eq n = n.eq m := by
  refine Bool.eq_iff_iff.mpr ?_
  simp only [eq_iff, and_comm]

@[simp] theorem eq_int (m n : Int) : (Number.int m).eq (.int n) = decide (m = n) := by
  have hone : (Binary64.unitsPerOne : Int) ≠ 0 :=
    Int.natCast_ne_zero.mpr (Nat.ne_of_gt Binary64.unitsPerOne_pos)
  rw [Number.eq, place?_int, place?_int]
  generalize (Binary64.unitsPerOne : Int) = one at hone ⊢
  simp [Int.mul_eq_mul_right_iff hone]

theorem eq_trans {l m n : Number} (hlm : l.eq m = true) (hmn : m.eq n = true) :
    l.eq n = true := by
  obtain ⟨p, hl, hm⟩ := eq_iff.mp hlm
  obtain ⟨q, hm', hn⟩ := eq_iff.mp hmn
  obtain rfl : p = q := Option.some.inj (hm.symm.trans hm')
  exact eq_iff.mpr ⟨p, hl, hn⟩

/-- Whatever is no not-a-number has a place, and so equals itself. -/
theorem eq_self {n : Number} (h : n.isNaN = false) : n.eq n = true := by
  rw [eq_iff]
  rcases n with n | x
  · exact ⟨_, rfl, rfl⟩
  · rcases x with payload | negative | ⟨negative, mantissa, exponent, canonical⟩
    · cases h
    · cases negative <;> exact ⟨_, rfl, rfl⟩
    · exact ⟨_, rfl, rfl⟩

@[simp] theorem lt_int (a b : Int) : (Number.int a).lt (.int b) = decide (a < b) := by
  have hone : 0 < (Binary64.unitsPerOne : Int) := Int.natCast_pos.mpr Binary64.unitsPerOne_pos
  rw [lt, place?_int, place?_int]
  generalize (Binary64.unitsPerOne : Int) = one at hone ⊢
  simp [Place.lt, Int.mul_lt_mul_right hone]

end Number

/-! ## Numbers that are none -/

namespace Binary64

theorem isNaN_pack (negative : Bool) (mantissa exponent : Nat) :
    (Number.float (pack negative mantissa exponent)).isNaN = false := by
  unfold pack
  split <;> rfl

theorem isNaN_ofRatio (negative : Bool) (num den : Nat) :
    (Number.float (ofRatio negative num den)).isNaN = false := by
  unfold ofRatio
  dsimp only
  split <;> exact isNaN_pack ..

theorem isNaN_ofDecimal (d : Decimal) : (Number.float (ofDecimal d)).isNaN = false := by
  unfold ofDecimal
  repeat' split
  · rfl
  · rfl
  · rfl
  · exact isNaN_ofRatio ..

end Binary64

/-- A binary number that equals an integer stands in its place. -/
theorem place?_of_toInt? {x : Binary64} {n : Int} (h : x.toInt? = some n) :
    (Number.float x).place? = (Number.int n).place? := by
  cases x with
  | nan payload => cases h
  | infinite negative => cases h
  | finite negative mantissa exponent canonical =>
    simp only [Binary64.toInt?] at h
    split at h
    · rename_i hmod
      cases h
      have hdvd := Nat.div_mul_cancel (Nat.dvd_of_mod_eq_zero hmod)
      simp only [Number.place?, Binary64.place?, Option.some.injEq, Place.finite.injEq]
      cases negative
      · simp only [Binary64.withSign, Bool.false_eq_true, if_false]
        rw [← Int.natCast_mul, hdvd]
      · simp only [Binary64.withSign, if_true]
        rw [Int.neg_mul, ← Int.natCast_mul, hdvd]
    · cases h

end Intake.Numeric
