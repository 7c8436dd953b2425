import Intake.Proofs.Numeric.Rounded

/-!
# The nearest binary number

Every finite number has an interval of quotients around it, and these are the quotients to which the
number is nearest.  The interval is spelled out by whole numbers where the program decides
membership; here it is one of the rational line, so that a decimal and a quotient of any other form
are held against it alike.

## Main definitions

* `RoundingInterval.Holds` — a quotient lies in an interval.
* `Binary64.edge` — how far the interval of a number goes below the number.

## Main statements

* `Binary64.holds_self` — a number lies in its own interval.
* `Binary64.Nearest.holds` — what a number is nearest to lies in the number's interval.
* `Binary64.Nearest.eq_of_holds` — the number nearest to a quotient is the one in whose interval the
  quotient lies.
* `Binary64.ofDecimal_of_holds` — so a decimal is read as the number in whose interval it lies.
-/

namespace Intake.Numeric

/-! ## Intervals -/

/-- A quotient lies in an interval. -/
def RoundingInterval.Holds (interval : RoundingInterval) (q : ℚ) : Prop :=
  if interval.closed then (interval.low / interval.den : ℚ) ≤ q ∧ q ≤ interval.high / interval.den
  else (interval.low / interval.den : ℚ) < q ∧ q < interval.high / interval.den

/-- What lies between quotients of an interval lies in the interval. -/
theorem RoundingInterval.holds_of_between {interval : RoundingInterval} {p q r : ℚ}
    (hp : interval.Holds p) (hr : interval.Holds r) (hpq : p ≤ q) (hqr : q ≤ r) :
    interval.Holds q := by
  rw [Holds] at hp hr ⊢
  split at hp
  · rename_i hclosed
    rw [if_pos hclosed] at hr ⊢
    exact ⟨le_trans hp.1 hpq, le_trans hqr hr.2⟩
  · rename_i hclosed
    rw [if_neg hclosed] at hr ⊢
    exact ⟨lt_of_lt_of_le hp.1 hpq, lt_of_le_of_lt hqr hr.2⟩

namespace Binary64

/-- Four times the distance within which all quotients around a number are rounded to it. -/
def edge (mantissa exponent : Nat) : Nat :=
  if mantissa = 2 ^ 52 ∧ exponent ≠ 0 then 1 else 2

section Interval

variable {negative sign : Bool} {mantissa exponent : Nat}
  {canonical : Canonical mantissa exponent} {q : ℚ} {x : Binary64}

/-- An interval in units. -/
theorem holds_iff_units : (roundingInterval mantissa exponent).Holds q ↔
    if mantissa % 2 = 0 then
      ((4 * mantissa - edge mantissa exponent : Nat) : ℚ) * 2 ^ exponent ≤ 4 * (q * unitsPerOne) ∧
        4 * (q * unitsPerOne) ≤ (4 * mantissa + 2) * 2 ^ exponent
    else
      ((4 * mantissa - edge mantissa exponent : Nat) : ℚ) * 2 ^ exponent < 4 * (q * unitsPerOne) ∧
        4 * (q * unitsPerOne) < (4 * mantissa + 2) * 2 ^ exponent := by
  have hone : (0 : ℚ) < (4 * unitsPerOne : Nat) :=
    Nat.cast_pos.mpr (Nat.mul_pos (by decide) unitsPerOne_pos)
  have hscale : q * (4 * unitsPerOne : Nat) = 4 * (q * unitsPerOne) := by
    push_cast
    ring
  rw [RoundingInterval.Holds]
  simp only [roundingInterval, decide_eq_true_eq, div_le_iff₀ hone, le_div_iff₀ hone,
    div_lt_iff₀ hone, lt_div_iff₀ hone, hscale]
  push_cast
  rfl

/-- The bounds of an interval, whether they belong to it or not. -/
theorem le_of_holds (h : (roundingInterval mantissa exponent).Holds q) :
    ((4 * mantissa - edge mantissa exponent : Nat) : ℚ) * 2 ^ exponent ≤ 4 * (q * unitsPerOne) ∧
      4 * (q * unitsPerOne) ≤ (4 * mantissa + 2) * 2 ^ exponent := by
  rw [holds_iff_units] at h
  split at h
  · exact h
  · exact ⟨le_of_lt h.1, le_of_lt h.2⟩

/-- The lower bound is at most half a unit away. -/
theorem sub_two_le_sub_edge (mantissa exponent : Nat) :
    (4 * mantissa - 2 : ℚ) ≤ (4 * mantissa - edge mantissa exponent : Nat) := by
  have hle : 4 * mantissa ≤ 4 * mantissa - edge mantissa exponent + 2 := by
    rw [edge]
    split <;> omega
  have : (4 * mantissa : ℚ) ≤ (4 * mantissa - edge mantissa exponent : Nat) + 2 := by
    exact_mod_cast hle
  linarith

/-- A number lies in its own interval. -/
theorem holds_self (mantissa exponent : Nat) : (roundingInterval mantissa exponent).Holds
    ((mantissa * 2 ^ exponent : Nat) / (unitsPerOne : Nat)) := by
  have hone : (unitsPerOne : ℚ) ≠ 0 := Nat.cast_ne_zero.mpr (Nat.ne_of_gt unitsPerOne_pos)
  have hpow := Rounds.two_pow_pos exponent
  have hunits : (4 * ((mantissa * 2 ^ exponent : Nat) / unitsPerOne * unitsPerOne) : ℚ) =
      4 * mantissa * 2 ^ exponent := by
    rw [div_mul_cancel₀ _ hone]
    push_cast
    ring
  have hedge : 0 < edge mantissa exponent := by
    rw [edge]
    split <;> decide
  rw [holds_iff_units, hunits]
  split
  · constructor
    · exact mul_le_mul_of_nonneg_right (by exact_mod_cast Nat.sub_le _ _) (le_of_lt hpow)
    · exact mul_le_mul_of_nonneg_right (by linarith) (le_of_lt hpow)
  · have hlow : 4 * mantissa - edge mantissa exponent < 4 * mantissa := by omega
    constructor
    · exact mul_lt_mul_of_pos_right (by exact_mod_cast hlow) hpow
    · exact mul_lt_mul_of_pos_right (by linarith) hpow

/-- Every finite number is far below `10 ^ 400`, with all that is rounded to it. -/
theorem high_lt (canonical : Canonical mantissa exponent) :
    (4 * mantissa + 2) * 2 ^ exponent < 10 ^ 400 * (4 * unitsPerOne) := by
  obtain ⟨hmantissa, -, hexponent⟩ := canonical
  -- The powers are kept apart from their values, which are too large to write down.
  have hpow : ∀ most k units one : Nat, one = 2 ^ units → 55 + most ≤ 3 * k + (2 + units) →
      2 ^ 55 * 2 ^ most ≤ 10 ^ k * (4 * one) := by
    intro most k units one hone hk
    calc 2 ^ 55 * 2 ^ most = 2 ^ (55 + most) := (Nat.pow_add ..).symm
      _ ≤ 2 ^ (3 * k + (2 + units)) := Nat.pow_le_pow_right (by decide) hk
      _ = (2 ^ 3) ^ k * (2 ^ 2 * one) := by rw [hone, ← Nat.pow_mul, ← Nat.pow_add, ← Nat.pow_add]
      _ ≤ 10 ^ k * (4 * one) := Nat.mul_le_mul_right _ (Nat.pow_le_pow_left (by decide) k)
  calc (4 * mantissa + 2) * 2 ^ exponent
    _ < 2 ^ 55 * 2 ^ exponent := Nat.mul_lt_mul_of_pos_right (by omega) (Nat.two_pow_pos _)
    _ ≤ 10 ^ 400 * (4 * unitsPerOne) := hpow exponent 400 1074 _ unitsPerOne.eq_1 (by omega)

/-- What is rounded to a positive number is neither too small nor too large to be one. -/
theorem bounds_of_holds (canonical : Canonical mantissa exponent) (hpos : 0 < mantissa)
    (h : (roundingInterval mantissa exponent).Holds q) :
    1 ≤ q * (2 * unitsPerOne) ∧ q < (10 ^ 400 : Nat) := by
  obtain ⟨hlow, hhigh⟩ := le_of_holds h
  have hone : (0 : ℚ) < (4 * unitsPerOne : Nat) :=
    Nat.cast_pos.mpr (Nat.mul_pos (by decide) unitsPerOne_pos)
  constructor
  · have htwo : 2 ≤ (4 * mantissa - edge mantissa exponent) * 2 ^ exponent :=
      calc 2 ≤ 4 * mantissa - edge mantissa exponent := by
            rw [edge]
            split <;> omega
        _ ≤ _ := Nat.le_mul_of_pos_right _ (Nat.two_pow_pos _)
    have htwo' : (2 : ℚ) ≤ (4 * mantissa - edge mantissa exponent : Nat) * 2 ^ exponent := by
      exact_mod_cast htwo
    linarith
  · have hlarge : ((4 * mantissa + 2) * 2 ^ exponent : ℚ) <
        (10 ^ 400 : Nat) * (4 * unitsPerOne : Nat) := by
      exact_mod_cast high_lt canonical
    refine lt_of_mul_lt_mul_right (lt_of_le_of_lt ?_ hlarge) (le_of_lt hone)
    rw [Nat.cast_mul, mul_left_comm]
    exact hhigh

/-! ## What a number is nearest to -/

/-- A magnitude is rounded to the parts of a number, or the number is a power of two and the
magnitude is just below it. -/
theorem parts_of_rounds {x : ℚ} {m e : Nat} (h : Rounds x m e)
    (canonical : Canonical mantissa exponent) (hunits : mantissa * 2 ^ exponent = m * 2 ^ e) :
    m = mantissa ∧ e = exponent ∨ m = 2 ^ 53 ∧ mantissa = 2 ^ 52 ∧ exponent = e + 1 := by
  have hlt : m * 2 ^ e < tooLarge := hunits ▸ mul_two_pow_lt_tooLarge canonical
  have hbound : ∀ {n k : Nat}, 2 ^ 52 ≤ n → n * 2 ^ k = m * 2 ^ e → k ≤ 2045 := by
    intro n k hn heq
    by_contra hk
    exact absurd (heq ▸ tooLarge_le hn (by omega)) (Nat.not_le_of_lt hlt)
  by_cases hcarry : m = 2 ^ 53
  · have hsame : 2 ^ 52 * 2 ^ (e + 1) = m * 2 ^ e := by
      rw [hcarry]
      ring
    have hcanonical : Canonical (2 ^ 52) (e + 1) :=
      ⟨by decide, .inl le_rfl, hbound le_rfl hsame⟩
    obtain ⟨rfl, rfl⟩ := eq_of_units_eq canonical hcanonical (hunits.trans hsame.symm)
    exact .inr ⟨hcarry, rfl, rfl⟩
  · have hm := h.mantissa_le
    have hbits : 2 ^ 52 ≤ m ∨ e = 0 := or_iff_not_imp_right.mpr h.le_mantissa
    have hcanonical : Canonical m e := by
      refine ⟨by omega, hbits, ?_⟩
      rcases hbits with hbits | rfl
      · exact hbound hbits rfl
      · exact Nat.zero_le _
    obtain ⟨rfl, rfl⟩ := eq_of_units_eq canonical hcanonical hunits
    exact .inl ⟨rfl, rfl⟩

/-- What a number is nearest to lies in the number's interval. -/
theorem Nearest.holds (h : (finite sign mantissa exponent canonical).Nearest negative q)
    (hpos : 0 < mantissa) : (roundingInterval mantissa exponent).Holds q := by
  obtain ⟨m, e, hrounds, -, hunits⟩ := h
  have hbelow := hrounds.below
  have habove := hrounds.above
  have hpow := Rounds.two_pow_pos e
  rw [holds_iff_units]
  generalize q * unitsPerOne = x at hrounds hbelow habove ⊢
  rcases parts_of_rounds hrounds canonical hunits with ⟨rfl, rfl⟩ | ⟨rfl, rfl, rfl⟩
  · by_cases hodd : m % 2 = 1
    · obtain ⟨hlow, hhigh⟩ := hrounds.nearest.odd hodd
      rw [lt_div_iff₀ hpow] at hlow
      rw [div_lt_iff₀ hpow] at hhigh
      rw [if_neg (by omega), edge, if_neg (by omega), Nat.cast_sub (by omega)]
      push_cast
      constructor <;> linarith
    · rw [if_pos (by omega)]
      refine ⟨?_, by linarith⟩
      rw [edge]
      split
      · -- Below a power of two the numbers with the exponent end before the halfway case does.
        rename_i hpower
        have hlow := hrounds.low.resolve_left hpower.2
        rw [hpower.1]
        norm_num
        linarith
      · rw [Nat.cast_sub (by omega)]
        push_cast
        linarith
  · have hhigh := hrounds.high
    rw [if_pos (by decide), edge, if_pos ⟨rfl, Nat.succ_ne_zero e⟩]
    norm_num at hbelow ⊢
    rw [pow_succ]
    constructor <;> linarith

/-- Just below a power of two the exponent is one less, and the mantissa is the next power. -/
theorem rounds_below_power {y : ℚ} {less : Nat}
    (hlow : ((4 * 2 ^ 52 - 1 : Nat) : ℚ) * 2 ^ (less + 1) ≤ 4 * y)
    (hhigh : y < 2 ^ 52 * 2 ^ (less + 1)) : Rounds y (2 ^ 53) less := by
  have hpow := Rounds.two_pow_pos less
  rw [pow_succ (2 : ℚ) less] at hlow hhigh
  push_cast at hlow
  refine ⟨by linarith, .inr (by linarith), by linarith, ?_, ?_, fun h => absurd h (by decide)⟩
  · rw [le_div_iff₀ hpow]
    push_cast
    linarith
  · rw [div_le_iff₀ hpow]
    push_cast
    linarith

/-- Elsewhere what is no further away than half a unit is rounded to the parts of the number. -/
theorem rounds_of_near {y : ℚ} (hmantissa : mantissa < 2 ^ 53) (hnonneg : 0 ≤ y)
    (hpower : exponent = 0 ∨ 2 ^ 52 * 2 ^ exponent ≤ y)
    (hlow : (4 * mantissa - 2 : ℚ) * 2 ^ exponent ≤ 4 * y)
    (hhigh : 4 * y ≤ (4 * mantissa + 2) * 2 ^ exponent)
    (hodd : mantissa % 2 = 1 → (4 * mantissa - 2 : ℚ) * 2 ^ exponent < 4 * y ∧
      4 * y < (4 * mantissa + 2) * 2 ^ exponent) : Rounds y mantissa exponent := by
  have hpow := Rounds.two_pow_pos exponent
  refine ⟨hnonneg, hpower, ?_, ?_, ?_, fun h => ?_⟩
  · have hle : (mantissa : ℚ) + 1 ≤ 2 ^ 53 := by exact_mod_cast hmantissa
    have := mul_le_mul_of_nonneg_right hle (le_of_lt hpow)
    linarith
  · rw [le_div_iff₀ hpow]
    linarith
  · rw [div_le_iff₀ hpow]
    linarith
  · obtain ⟨hlow, hhigh⟩ := hodd h
    rw [lt_div_iff₀ hpow, div_lt_iff₀ hpow]
    constructor <;> linarith

/-- What lies in the interval of a number is rounded to as many units as the number has. -/
theorem exists_rounds_of_holds (canonical : Canonical mantissa exponent)
    (h : (roundingInterval mantissa exponent).Holds q) :
    ∃ m e, Rounds (q * unitsPerOne) m e ∧ m * 2 ^ e = mantissa * 2 ^ exponent := by
  obtain ⟨hlow, hhigh⟩ := le_of_holds h
  rw [holds_iff_units] at h
  generalize q * unitsPerOne = y at h hlow hhigh ⊢
  obtain ⟨hmantissa, hbits, -⟩ := canonical
  have hpow := Rounds.two_pow_pos exponent
  by_cases hbelow : (mantissa = 2 ^ 52 ∧ exponent ≠ 0) ∧ y < 2 ^ 52 * 2 ^ exponent
  · obtain ⟨⟨rfl, hne⟩, hbelow⟩ := hbelow
    obtain ⟨less, rfl⟩ := Nat.exists_eq_add_one_of_ne_zero hne
    rw [edge, if_pos ⟨rfl, hne⟩] at hlow
    exact ⟨2 ^ 53, less, rounds_below_power hlow hbelow, by ring⟩
  · have hnonneg : 0 ≤ y := by
      have := mul_nonneg (Nat.cast_nonneg (4 * mantissa - edge mantissa exponent)) (le_of_lt hpow)
      linarith
    have hmul := mul_le_mul_of_nonneg_right (sub_two_le_sub_edge mantissa exponent) (le_of_lt hpow)
    refine ⟨mantissa, exponent, rounds_of_near hmantissa hnonneg ?_ (le_trans hmul hlow) hhigh
      fun hodd => ?_, rfl⟩
    · refine or_iff_not_imp_left.mpr fun hne => ?_
      by_cases hpower : mantissa = 2 ^ 52
      · exact le_of_not_gt fun hlt => hbelow ⟨⟨hpower, hne⟩, hlt⟩
      · have hbits : 2 ^ 52 + 1 ≤ mantissa := by omega
        have hbits' : (2 ^ 52 + 1 : ℚ) ≤ mantissa := by exact_mod_cast hbits
        have := mul_le_mul_of_nonneg_right hbits' (le_of_lt hpow)
        linarith
    · rw [if_neg (by omega)] at h
      exact ⟨lt_of_le_of_lt hmul h.1, h.2⟩

/-- A number that is nearest to a quotient in the interval of another is that number. -/
theorem Nearest.eq_of_holds (hx : x.Nearest negative q) (canonical : Canonical mantissa exponent)
    (h : (roundingInterval mantissa exponent).Holds q) :
    x = .finite negative mantissa exponent canonical := by
  obtain ⟨m, e, hrounds, hmagnitude⟩ := hx
  obtain ⟨m', e', hrounds', hunits⟩ := exists_rounds_of_holds canonical h
  have hsame : m * 2 ^ e = mantissa * 2 ^ exponent :=
    hunits ▸ Nat.le_antisymm (hrounds.mono hrounds' le_rfl) (hrounds'.mono hrounds le_rfl)
  rw [hsame] at hmagnitude
  obtain ⟨n, d, hn, rfl, heq⟩ := hmagnitude.exists_finite (mul_two_pow_lt_tooLarge canonical)
  obtain ⟨rfl, rfl⟩ := eq_of_units_eq hn canonical heq
  rfl

/-- A decimal is read as the number in whose interval it lies. -/
theorem ofDecimal_of_holds {d : Decimal} (canonical : Canonical mantissa exponent)
    (h : (roundingInterval mantissa exponent).Holds d.magnitude) :
    ofDecimal d = .finite d.negative mantissa exponent canonical :=
  (nearest_ofDecimal d).eq_of_holds canonical h

end Interval

end Binary64

end Intake.Numeric
