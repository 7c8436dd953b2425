import Intake.Proofs.Numeric.Place
import Intake.Numeric.Number
import Intake.Numeric.Binary64.Shortest

/-!
# Whole binary numbers

A quotient that is an integer below `2 ^ 53` is met exactly by a binary number, and a number that
equals an integer is so many whole units.

## Main definitions

* `Binary64.Below` — the numbers of bounded magnitude.

## Main statements

* `Binary64.toInt?_ofRatio` — a quotient that is an integer below `2 ^ 53` is met exactly.
* `Binary64.exists_units_of_toInt?` — the units of an integer.
-/

namespace Intake.Numeric

/-! ## Quotients without remainder -/

theorem roundHalfEven_cases (num den : Nat) :
    roundHalfEven num den = num / den ∨ roundHalfEven num den = num / den + 1 := by
  rw [roundHalfEven]
  grind

/-- A quotient without remainder is its own rounding. -/
theorem roundHalfEven_mul (n : Nat) {den : Nat} (hden : 0 < den) :
    roundHalfEven (n * den) den = n := by
  simp [roundHalfEven, Nat.mul_mod_left, Nat.mul_div_cancel _ hden, hden]

theorem powerRatio_natCast (num den k : Nat) :
    powerRatio num den (k : Int) = (num, den * 10 ^ k) := by
  simp [powerRatio]

theorem powerRatio_neg_natCast (num den k : Nat) :
    powerRatio num den (-(k : Int)) = (num * 10 ^ k, den) := by
  rw [powerRatio]
  split
  · obtain rfl : k = 0 := by omega
    simp
  · simp

theorem log2_mul_two_pow {n : Nat} (hn : 0 < n) (k : Nat) : (n * 2 ^ k).log2 = n.log2 + k := by
  induction k with
  | zero => simp
  | succ k ih =>
    have hne : n * 2 ^ k ≠ 0 := Nat.mul_ne_zero (Nat.ne_of_gt hn) (Nat.ne_of_gt (Nat.two_pow_pos k))
    rw [Nat.pow_succ, ← Nat.mul_assoc, Nat.mul_comm _ 2, Nat.log2_two_mul hne, ih, Nat.add_assoc]

namespace Binary64

/-- One is `2 ^ (52 - bits)` times the unit of a mantissa of 53 bits. -/
theorem unitsPerOne_eq {bits : Nat} (h : bits ≤ 52) :
    unitsPerOne = 2 ^ (52 - bits) * 2 ^ (bits + 1022) := by
  have hsum : 52 - bits + (bits + 1022) = 1074 := by omega
  rw [← Nat.pow_add, hsum, unitsPerOne]

theorem log2_mul_unitsPerOne {n : Nat} (hn : 0 < n) :
    (n * unitsPerOne).log2 = n.log2 + 1074 := by
  have hpow : ∀ one k, one = 2 ^ k → (n * one).log2 = n.log2 + k := by
    rintro _ k rfl
    exact log2_mul_two_pow hn k
  exact hpow unitsPerOne 1074 unitsPerOne.eq_1

/-- The mantissa of a whole number has 53 bits. -/
theorem canonical_of_lt {n : Nat} (hn : 0 < n) (hlog : n.log2 ≤ 52) :
    Canonical (n * 2 ^ (52 - n.log2)) (n.log2 + 1022) := by
  have hbits : n.log2 + (52 - n.log2) = 52 := by omega
  have hbits' : n.log2 + 1 + (52 - n.log2) = 53 := by omega
  refine ⟨?_, .inl ?_, by omega⟩
  · calc n * 2 ^ (52 - n.log2) < 2 ^ (n.log2 + 1) * 2 ^ (52 - n.log2) :=
          Nat.mul_lt_mul_of_pos_right Nat.lt_log2_self (Nat.two_pow_pos _)
      _ = 2 ^ 53 := by rw [← Nat.pow_add, hbits']
  · calc 2 ^ 52 = 2 ^ n.log2 * 2 ^ (52 - n.log2) := by rw [← Nat.pow_add, hbits]
      _ ≤ n * 2 ^ (52 - n.log2) := Nat.mul_le_mul_right _ (Nat.log2_self_le (Nat.ne_of_gt hn))

/-- A whole number below `2 ^ 53` is met exactly, however the quotient is written. -/
theorem ofRatio_eq_finite {negative : Bool} {n k : Nat} (hn : 0 < n) (hlog : n.log2 ≤ 52)
    (hk : 0 < k) : ofRatio negative (n * k) k =
      .finite negative (n * 2 ^ (52 - n.log2)) (n.log2 + 1022) (canonical_of_lt hn hlog) := by
  have hcanonical := canonical_of_lt hn hlog
  have hexponent : (n * k * unitsPerOne / k).log2 - 52 = n.log2 + 1022 := by
    rw [Nat.mul_right_comm, Nat.mul_div_cancel _ hk, log2_mul_unitsPerOne hn]
    omega
  have hmantissa : roundHalfEven (n * k * unitsPerOne) (k * 2 ^ (n.log2 + 1022)) =
      n * 2 ^ (52 - n.log2) := by
    rw [unitsPerOne_eq hlog, Nat.mul_mul_mul_comm]
    exact roundHalfEven_mul _ (Nat.mul_pos hk (Nat.two_pow_pos _))
  rw [ofRatio, hexponent, hmantissa, if_neg (Nat.ne_of_lt hcanonical.1), pack, dif_pos hcanonical]

/-- Whole numbers of so many bits are not too large for the format. -/
theorem isFinite_ofRatio {negative : Bool} {n : Nat} (hn : n.log2 ≤ 1022) :
    (ofRatio negative n 1).isFinite = true := by
  have hlog : (n * unitsPerOne / 1).log2 ≤ 2096 := by
    rw [Nat.div_one]
    by_cases hzero : n = 0
    · simp [hzero]
    · rw [log2_mul_unitsPerOne (Nat.pos_of_ne_zero hzero)]
      omega
  rw [ofRatio]
  rw [Nat.div_one] at hlog ⊢
  generalize n * unitsPerOne = scaled at hlog ⊢
  generalize hexponent : scaled.log2 - 52 = exponent
  have hpos : 0 < 1 * 2 ^ exponent := Nat.mul_pos Nat.one_pos (Nat.two_pow_pos _)
  have hle : scaled / (1 * 2 ^ exponent) + 1 ≤ 2 ^ 53 := by
    rw [Nat.succ_le_iff, Nat.div_lt_iff_lt_mul hpos, Nat.one_mul, ← Nat.pow_add]
    exact Nat.lt_of_lt_of_le Nat.lt_log2_self (Nat.pow_le_pow_right (by decide) (by omega))
  have hge : exponent ≠ 0 → 2 ^ 52 ≤ scaled / (1 * 2 ^ exponent) := by
    intro hne
    have hscaled : scaled ≠ 0 := by
      rintro rfl
      exact hne (by simpa using hexponent.symm)
    rw [Nat.le_div_iff_mul_le hpos, Nat.one_mul, ← Nat.pow_add]
    exact Nat.le_trans (Nat.pow_le_pow_right (by decide) (by omega)) (Nat.log2_self_le hscaled)
  have hround := roundHalfEven_cases scaled (1 * 2 ^ exponent)
  generalize roundHalfEven scaled (1 * 2 ^ exponent) = mantissa at hround ⊢
  generalize scaled / (1 * 2 ^ exponent) = quotient at hle hge hround
  have hpack : ∀ {mantissa exponent}, Canonical mantissa exponent →
      (pack negative mantissa exponent).isFinite = true := by
    intro mantissa exponent h
    rw [pack, dif_pos h]
    rfl
  split
  · exact hpack ⟨by decide, .inl (by decide), by omega⟩
  · exact hpack ⟨by omega, by omega, by omega⟩

/-- The integer that so many whole units are. -/
theorem toInt?_of_units {negative : Bool} {mantissa exponent n : Nat}
    {canonical : Canonical mantissa exponent} (h : mantissa * 2 ^ exponent = n * unitsPerOne) :
    (finite negative mantissa exponent canonical).toInt? = some (withSign negative n) := by
  rw [toInt?, h, Nat.mul_mod_left, if_pos rfl, Nat.mul_div_cancel _ unitsPerOne_pos]

theorem exists_units_of_toInt? {negative : Bool} {mantissa exponent : Nat}
    {canonical : Canonical mantissa exponent} {n : Int}
    (h : (finite negative mantissa exponent canonical).toInt? = some n) :
    ∃ whole, mantissa * 2 ^ exponent = whole * unitsPerOne ∧ withSign negative whole = n := by
  rw [toInt?] at h
  split at h
  · exact ⟨_, (Nat.div_mul_cancel (Nat.dvd_of_mod_eq_zero ‹_›)).symm, Option.some.inj h⟩
  · cases h

theorem natAbs_withSign (negative : Bool) (n : Nat) : (withSign negative n).natAbs = n := by
  cases negative <;> simp [withSign]

/-- A quotient that is a whole number below `2 ^ 53` equals it once it is rounded. -/
theorem toInt?_ofRatio {negative : Bool} {n k : Nat} (hn : 0 < n) (hlt : n < 2 ^ 53) (hk : 0 < k) :
    (ofRatio negative (n * k) k).toInt? = some (withSign negative n) := by
  have hlog : n.log2 ≤ 52 := Nat.le_of_lt_succ ((Nat.log2_lt (Nat.ne_of_gt hn)).mpr hlt)
  rw [ofRatio_eq_finite hn hlog hk]
  refine toInt?_of_units ?_
  rw [Nat.mul_assoc, ← unitsPerOne_eq hlog]

/-! ## Magnitudes -/

/-- A finite number that is closer to zero than a whole number. -/
def Below (bound : Nat) (x : Binary64) : Prop :=
  ∃ units, x.units? = some units ∧ units.natAbs < bound * unitsPerOne

theorem Below.isNaN {bound : Nat} {x : Binary64} (h : x.Below bound) :
    (Number.float x).isNaN = false := by
  obtain ⟨units, hunits, -⟩ := h
  cases x with
  | nan payload => cases hunits
  | _ => rfl

theorem Below.isFinite {bound : Nat} {x : Binary64} (h : x.Below bound) : x.isFinite = true := by
  obtain ⟨units, hunits, -⟩ := h
  cases x with
  | finite => rfl
  | _ => cases hunits

theorem Below.natAbs_lt {bound : Nat} {x : Binary64} {n : Int} (h : x.Below bound)
    (hn : x.toInt? = some n) : n.natAbs < bound := by
  obtain ⟨units, hunits, hlt⟩ := h
  cases x with
  | nan payload => cases hunits
  | infinite negative => cases hunits
  | finite negative mantissa exponent canonical =>
    obtain ⟨whole, hwhole, rfl⟩ := exists_units_of_toInt? hn
    cases hunits
    rw [natAbs_withSign] at hlt ⊢
    rw [hwhole] at hlt
    exact Nat.lt_of_mul_lt_mul_right hlt

end Binary64

end Intake.Numeric
