import Intake.Proofs.Numeric.Limit
import Intake.Proofs.Numeric.Whole

/-!
# Numbers of moderate size

Short texts write integers that are neither too long to be read nor too large to be binary numbers,
and so small integers are not.

## Main definitions

* `WritesTooLarge` — a text that writes an integer beyond the largest binary number.

## Main statements

* `not_tooLong_of_lt`, `ofInt?_ne_none` — small integers.
* `ofInt?_eq_none` — large integers.
* `not_writesTooLong_of_length_le`, `not_writesTooLarge_of_length_le` — short texts.
-/

namespace Intake.Numeric

/-! ## Small integers -/

theorem not_tooLong_of_lt {n : Int} (hn : n.natAbs < 2 ^ 53) : ¬ TooLong n := by
  intro hlong
  have hpow : 10 ^ 16 ≤ 10 ^ maxDigits := Nat.pow_le_pow_right (by decide) (by decide)
  exact Nat.lt_irrefl _ (Nat.lt_of_lt_of_le (Nat.lt_trans hn (by decide))
    (Nat.le_trans hpow hlong))

theorem ofInt?_ne_none_of_log2_le {n : Int} (h : n.natAbs.log2 ≤ 1022) :
    Binary64.ofInt? n ≠ none := by
  rw [Binary64.ofInt?]
  simp [Binary64.isFinite_ofRatio h]

/-- Integers of at most three hundred digits are not too large to be binary numbers. -/
theorem ofInt?_ne_none {n : Int} (hn : n.natAbs < 10 ^ (3 * 100)) : Binary64.ofInt? n ≠ none := by
  have hpow : ∀ k, n.natAbs < 10 ^ (3 * k) → n.natAbs.log2 ≤ 10 * k := by
    intro k hk
    by_cases hzero : n.natAbs = 0
    · simp [hzero]
    · refine Nat.le_of_lt_succ ((Nat.log2_lt hzero).mpr ?_)
      calc n.natAbs < (10 ^ 3) ^ k := by rwa [← Nat.pow_mul]
        _ ≤ (2 ^ 10) ^ k := Nat.pow_le_pow_left (by decide) k
        _ ≤ 2 ^ (10 * k + 1) := by
          rw [← Nat.pow_mul]
          exact Nat.pow_le_pow_right (by decide) (Nat.le_succ _)
  exact ofInt?_ne_none_of_log2_le (Nat.le_trans (hpow 100 hn) (by decide))

theorem ofInt?_ne_none_of_lt {n : Int} (hn : n.natAbs < 2 ^ 53) : Binary64.ofInt? n ≠ none := by
  apply ofInt?_ne_none_of_log2_le
  by_cases hzero : n.natAbs = 0
  · simp [hzero]
  · have hlog : n.natAbs.log2 < 53 := (Nat.log2_lt hzero).mpr hn
    omega

/-! ## Large integers -/

theorem ofInt?_eq_none {n : Int} (hn : 1024 ≤ n.natAbs.log2) : Binary64.ofInt? n = none := by
  have hpos : 0 < n.natAbs := Nat.pos_of_ne_zero fun hzero => by simp [hzero] at hn
  have hlarge : (Binary64.ofRatio (n < 0) n.natAbs 1).isFinite = false := by
    refine Bool.eq_false_iff.mpr fun hfinite => ?_
    have hlog := Binary64.log2_le_of_isFinite_ofRatio hfinite
    rw [Nat.div_one, Binary64.log2_mul_unitsPerOne hpos] at hlog
    omega
  rw [Binary64.ofInt?]
  simp [hlarge]

/-! ## Short texts -/

theorem length_splitSign_le (cs : List Char) : (splitSign cs).2.length ≤ cs.length := by
  unfold splitSign
  split <;> simp

theorem length_trimChars_le (cs : List Char) : (Text.trimChars cs).length ≤ cs.length := by
  rw [Text.trimChars_eq]
  exact Nat.le_trans (List.rdropWhile_prefix _ _).length_le (List.dropWhile_sublist _).length_le

/-- The digits of a text are no more than its characters. -/
theorem length_digits_le (text : String) :
    (splitSign (Text.trimChars text.toList)).2.length ≤ text.length := by
  have := Nat.le_trans (length_splitSign_le _) (length_trimChars_le text.toList)
  rwa [String.length_toList] at this

theorem not_writesTooLong_of_length_le {text : String} (h : text.length ≤ 4000) :
    ¬ WritesTooLong text := by
  rintro ⟨-, hlong⟩
  have := length_digits_le text
  rw [maxDigits] at hlong
  omega

/-- A text writes an integer beyond the largest binary number. -/
def WritesTooLarge (text : String) : Prop :=
  ∃ n, readNumber text = .ok (some (.int n)) ∧ Binary64.ofInt? n = none

theorem natAbs_lt_of_readNumber {text : String} {n : Int}
    (h : readNumber text = .ok (some (.int n))) : n.natAbs < 10 ^ text.length := by
  unfold readNumber readNumberChars at h
  dsimp only at h
  split at h
  · cases h
  · split at h
    · obtain ⟨m, hm, heq⟩ := Outcome.map_eq_ok.mp h
      cases heq
      unfold readInteger at hm
      split at hm <;> cases hm
      rw [Binary64.natAbs_withSign]
      exact Nat.lt_of_lt_of_le (Text.digitsValue_lt _)
        (Nat.pow_le_pow_right (by decide) (length_digits_le text))
    · split at h <;> cases h

theorem not_writesTooLarge_of_length_le {text : String} (h : text.length ≤ 3 * 100) :
    ¬ WritesTooLarge text := by
  rintro ⟨n, hread, hnone⟩
  have hlt := Nat.lt_of_lt_of_le (natAbs_lt_of_readNumber hread)
    (Nat.pow_le_pow_right (by decide) h)
  exact ofInt?_ne_none hlt hnone

end Intake.Numeric
