import Intake.Proofs.Numeric.Nearest

/-!
# Rounding to significant digits

A number is rounded to significant digits by way of a decimal.  Where its exact value already has so
few digits, the decimal has that value and is read back as the number.  Where it has more digits
before its point than are kept, the decimal is a whole number, and so is what is read back.

## Main statements

* `Binary64.roundSignificant_eq_self`, `Binary64.toInt?_roundSignificant` — what has few digits is
  left alone.
* `Binary64.exists_toInt?_roundSignificant` — whole numbers stay whole.
-/

namespace Intake.Numeric

namespace Binary64

/-! ## Numbers of few digits -/

/-- A number is left alone if its exact value is a multiple of the last digit that is kept. -/
theorem roundSignificant_of_multiple {negative : Bool} {mantissa exponent count c : Nat}
    {canonical : Canonical mantissa exponent}
    (h : ((mantissa * 2 ^ exponent : Nat) / unitsPerOne : ℚ) =
      c * 10 ^ (decimalPoint (mantissa * 2 ^ exponent) unitsPerOne - (min count 1100 : Nat))) :
    (finite negative mantissa exponent canonical).roundSignificant count =
      finite negative mantissa exponent canonical := by
  rw [roundSignificant]
  split
  · rfl
  · rename_i hzero
    dsimp only
    generalize decimalPoint (mantissa * 2 ^ exponent) unitsPerOne - (min count 1100 : Nat) = power
      at h ⊢
    have hratio := powerRatio_pos (mantissa * 2 ^ exponent) unitsPerOne_pos power
    have hexact : (powerRatio (mantissa * 2 ^ exponent) unitsPerOne power).1 =
        c * (powerRatio (mantissa * 2 ^ exponent) unitsPerOne power).2 :=
      Nat.le_antisymm ((powerRatio_le_iff unitsPerOne_pos).mpr (le_of_eq h))
        ((le_powerRatio_iff unitsPerOne_pos).mpr (ge_of_eq h))
    rw [hexact, roundHalfEven_mul c hratio]
    refine ofDecimal_of_holds canonical ?_
    rw [Decimal.magnitude, ← h]
    exact holds_self mantissa exponent

/-- A whole number has its decimal point behind its digits. -/
theorem decimalPoint_mul_unitsPerOne {whole : Nat} (hwhole : 0 < whole) :
    decimalPoint (whole * unitsPerOne) unitsPerOne = (Text.digits whole).length := by
  rw [decimalPoint, if_pos (Nat.le_mul_of_pos_left _ hwhole), Nat.mul_div_cancel _ unitsPerOne_pos]

/-- A whole number of at most fifteen digits with zeros behind them is left alone. -/
theorem roundSignificant_eq_self {x : Binary64} {n : Int} {c zeros : Nat} (hn : x.toInt? = some n)
    (hc : c < 10 ^ 15) (hvalue : n.natAbs = c * 10 ^ zeros) : x.roundSignificant 15 = x := by
  cases x with
  | nan payload => cases hn
  | infinite negative => cases hn
  | finite negative mantissa exponent canonical =>
    obtain ⟨whole, hunits, rfl⟩ := exists_units_of_toInt? hn
    rw [natAbs_withSign] at hvalue
    by_cases hzero : whole = 0
    · subst hzero
      refine @roundSignificant_of_multiple negative mantissa exponent 15 0 canonical ?_
      rw [hunits, Nat.zero_mul, Nat.cast_zero, zero_div, zero_mul]
    have hone : (unitsPerOne : ℚ) ≠ 0 := Nat.cast_ne_zero.mpr (Nat.ne_of_gt unitsPerOne_pos)
    have hdigits : (Text.digits whole).length ≤ 15 + zeros := by
      rw [Text.digits, Nat.length_toDigits_le_iff (by decide) (by omega), hvalue, Nat.pow_add]
      exact Nat.mul_lt_mul_of_pos_right hc (Nat.pow_pos (by decide))
    have hpower : decimalPoint (mantissa * 2 ^ exponent) unitsPerOne - (min 15 1100 : Nat) ≤
        zeros := by
      rw [hunits, decimalPoint_mul_unitsPerOne (Nat.pos_of_ne_zero hzero)]
      omega
    generalize hlast : decimalPoint (mantissa * 2 ^ exponent) unitsPerOne - (min 15 1100 : Nat) =
      power at hpower
    obtain ⟨k, hk⟩ := Int.le.dest hpower
    refine @roundSignificant_of_multiple negative mantissa exponent 15 (c * 10 ^ k) canonical ?_
    rw [hlast, hunits, Nat.cast_mul, mul_div_cancel_right₀ _ hone, hvalue]
    push_cast
    rw [mul_assoc, ← zpow_natCast 10 zeros, ← hk, add_comm, zpow_add₀ (by decide), zpow_natCast]

/-- Rounding to fifteen significant digits keeps a whole number of at most as many digits. -/
theorem toInt?_roundSignificant {x : Binary64} {n : Int} (h : x.toInt? = some n)
    (hn : n.natAbs < 10 ^ 15) : (x.roundSignificant 15).toInt? = some n := by
  rw [@roundSignificant_eq_self x n n.natAbs 0 h hn (Nat.mul_one _).symm, h]

/-! ## Whole numbers stay whole -/

theorem two_pow_eq_mul_unitsPerOne {exponent : Nat} (h : 1074 ≤ exponent) :
    2 ^ exponent = 2 ^ (exponent - 1074) * unitsPerOne := by
  have hpow : ∀ units one : Nat, one = 2 ^ units → units ≤ exponent →
      2 ^ exponent = 2 ^ (exponent - units) * one := by
    intro units one hone hle
    rw [hone, ← Nat.pow_add, Nat.sub_add_cancel hle]
  exact hpow 1074 _ unitsPerOne.eq_1 h

/-- The numbers with a large exponent are whole. -/
theorem exists_toInt?_pack {negative : Bool} {mantissa exponent : Nat} (hle : 1074 ≤ exponent)
    (h : (pack negative mantissa exponent).isFinite = true) :
    ∃ k, (pack negative mantissa exponent).toInt? = some k := by
  rw [pack] at h ⊢
  split
  · refine ⟨_, @toInt?_of_units _ _ _ (mantissa * 2 ^ (exponent - 1074)) _ ?_⟩
    rw [two_pow_eq_mul_unitsPerOne hle, Nat.mul_assoc]
  · rename_i hcanonical
    rw [dif_neg hcanonical] at h
    cases h

/-- The number nearest to a whole number is whole: either it is met exactly, or the numbers in its
neighbourhood are further apart than one. -/
theorem exists_toInt?_ofRatio {negative : Bool} {n : Nat} (hn : 0 < n)
    (h : (ofRatio negative n 1).isFinite = true) : ∃ k, (ofRatio negative n 1).toInt? = some k := by
  by_cases hlog : n.log2 ≤ 52
  · have hlt : n < 2 ^ 53 :=
      Nat.lt_of_lt_of_le Nat.lt_log2_self (Nat.pow_le_pow_right (by decide) (by omega))
    have := @toInt?_ofRatio negative n 1 hn hlt Nat.one_pos
    rw [Nat.mul_one] at this
    exact ⟨_, this⟩
  · have hexponent : 1074 ≤ (n * unitsPerOne / 1).log2 - 52 := by
      rw [Nat.div_one, log2_mul_unitsPerOne hn]
      omega
    rw [ofRatio] at h ⊢
    split
    · rename_i hround
      rw [if_pos hround] at h
      exact exists_toInt?_pack (Nat.le_succ_of_le hexponent) h
    · rename_i hround
      rw [if_neg hround] at h
      exact exists_toInt?_pack hexponent h

/-- A decimal without places is read as a whole number. -/
theorem exists_toInt?_ofDecimal {d : Decimal} (hexponent : 0 ≤ d.exponent)
    (h : (ofDecimal d).isFinite = true) : ∃ k, (ofDecimal d).toInt? = some k := by
  obtain ⟨k, hk⟩ := Int.eq_ofNat_of_zero_le hexponent
  by_cases hcoefficient : d.coefficient = 0
  · rw [ofDecimal, if_pos hcoefficient]
    exact ⟨_, toInt?_of_units (by rw [Nat.zero_mul, Nat.zero_mul] : 0 * 2 ^ 0 = 0 * unitsPerOne)⟩
  · have hnotLarge : ¬ 400 < d.exponent := by
      intro hlarge
      rw [ofDecimal, if_neg hcoefficient, if_pos hlarge] at h
      cases h
    have hnotSmall : ¬ d.exponent < -400 - 4 * (d.coefficient.log2 : Int) := by omega
    have hread : ofDecimal d = ofRatio d.negative (d.coefficient * 10 ^ k) 1 := by
      rw [ofDecimal, if_neg hcoefficient, if_neg hnotLarge, if_neg hnotSmall, hk,
        powerRatio_neg_natCast]
    rw [hread] at h ⊢
    exact exists_toInt?_ofRatio
      (Nat.mul_pos (Nat.pos_of_ne_zero hcoefficient) (Nat.pow_pos (by decide))) h

theorem exists_toInt?_roundSignificant {x : Binary64} {n : Int} (hn : x.toInt? = some n)
    (h : (x.roundSignificant 15).isFinite = true) :
    ∃ k, (x.roundSignificant 15).toInt? = some k := by
  by_cases hsmall : n.natAbs < 10 ^ 15
  · exact ⟨n, toInt?_roundSignificant hn hsmall⟩
  · cases x with
    | nan payload => cases hn
    | infinite negative => cases hn
    | finite negative mantissa exponent canonical =>
      obtain ⟨whole, hunits, rfl⟩ := exists_units_of_toInt? hn
      rw [natAbs_withSign] at hsmall
      have hpower : 0 ≤
          decimalPoint (mantissa * 2 ^ exponent) unitsPerOne - (min 15 1100 : Nat) := by
        have hdigits : ¬ (Text.digits whole).length ≤ 15 := by
          rwa [Text.digits, Nat.length_toDigits_le_iff (by decide) (by decide)]
        rw [hunits, decimalPoint_mul_unitsPerOne (by omega)]
        omega
      rw [roundSignificant] at h ⊢
      split
      · exact ⟨_, hn⟩
      · rename_i hzero
        rw [if_neg hzero] at h
        exact exists_toInt?_ofDecimal hpower h

end Binary64

end Intake.Numeric
