import Intake.Proofs.Numeric.Ordered

/-!
# How far off binary numbers are

The number that is nearest to a quotient below a power of two is off by no more than the power of
two allows.  Quotients that are further apart than this stay apart, and quotients of few bits are
met exactly.

## Main statements

* `Binary64.Nearest.exists_finite` — how far off the nearest number is.
* `Binary64.Nearest.exists_finite_eq` — where it is exact.
* `Binary64.Nearest.lt_of_error_lt` — quotients that stay apart.
* `Binary64.Nearest.le_of_no_multiple` — quotients that fall together.
-/

namespace Intake.Numeric

/-- Whole numbers that are less than one apart are the same. -/
theorem eq_of_cast_near {m n : Nat} (hlow : (m : ℚ) < n + 1) (hhigh : (n : ℚ) < m + 1) : m = n := by
  have hlow : m < n + 1 := by exact_mod_cast hlow
  have hhigh : n < m + 1 := by exact_mod_cast hhigh
  omega

theorem Number.lt_eq_false_of_le {m n : Number} (h : m.le n = true) : n.lt m = false := by
  obtain ⟨p, q, hp, hq, hlt⟩ := le_iff.mp h
  rw [lt, hp, hq]
  exact hlt

theorem signed_div (negative : Bool) (q r : ℚ) :
    signed negative q / r = signed negative (q / r) := by
  rw [div_eq_mul_inv, signed_mul, ← div_eq_mul_inv]

/-- A whole number of parts with its sign. -/
theorem signed_natAbs_div (i : Int) (n : Nat) : signed (i < 0) (i.natAbs / n) = i / n := by
  rw [← signed_div, signed_natAbs]

namespace Binary64

variable {x y : Binary64} {a b negative : Bool} {p q : ℚ} {c d k m : Nat}

theorem lt_tooLarge (hm : m ≤ 2 ^ 53) (hd : d ≤ 2044) : m * 2 ^ d < tooLarge := by
  have hpow : ∀ bits limit : Nat, limit = 2 ^ bits → 53 + d < bits → m * 2 ^ d < limit := by
    intro bits limit hlimit hbits
    calc m * 2 ^ d ≤ 2 ^ 53 * 2 ^ d := Nat.mul_le_mul_right _ hm
      _ = 2 ^ (53 + d) := (Nat.pow_add ..).symm
      _ < limit := hlimit ▸ Nat.pow_lt_pow_right (by decide) hbits
  exact hpow 2098 _ tooLarge.eq_1 (by omega)

/-- A power of two in units. -/
theorem two_pow_mul_unitsPerOne (k : Nat) : 2 ^ k * unitsPerOne = 2 ^ 53 * 2 ^ (k + 1021) := by
  have hpow : ∀ units less one : Nat, one = 2 ^ units → units = 53 + less →
      2 ^ k * one = 2 ^ 53 * 2 ^ (k + less) := by
    intro units less one hone hunits
    rw [hone, hunits, ← Nat.pow_add, ← Nat.pow_add]
    congr 1
    omega
  exact hpow 1074 1021 _ unitsPerOne.eq_1 rfl

/-- The number nearest to a quotient below a power of two is finite and off by at most half of the
54th bit from there. -/
theorem Nearest.exists_finite (h : x.Nearest negative q) (hk : k ≤ 1000) (hq : q < 2 ^ k) :
    ∃ mantissa exponent canonical, x = .finite negative mantissa exponent canonical ∧
      |((mantissa * 2 ^ exponent : Nat) / unitsPerOne : ℚ) - q| ≤ 2 ^ k / 2 ^ 54 := by
  obtain ⟨m, e, hrounds, hmagnitude⟩ := h
  have hone : (0 : ℚ) < unitsPerOne := Nat.cast_pos.mpr unitsPerOne_pos
  have hscale : (2 ^ k * unitsPerOne : ℚ) = 2 ^ 53 * 2 ^ (k + 1021) := by
    exact_mod_cast two_pow_mul_unitsPerOne k
  have hhigh : q * unitsPerOne < 2 ^ 53 * 2 ^ (k + 1021) := by
    rw [← hscale]
    exact mul_lt_mul_of_pos_right hq hone
  have hlt : m * 2 ^ e < tooLarge :=
    lt_tooLarge hrounds.mantissa_le (Nat.le_trans (hrounds.exponent_le hhigh) (by omega))
  obtain ⟨mantissa, exponent, canonical, rfl, hunits⟩ := hmagnitude.exists_finite hlt
  refine ⟨mantissa, exponent, canonical, rfl, ?_⟩
  have herror := hrounds.abs_sub_le hhigh
  have hvalue : ((m * 2 ^ e : Nat) / unitsPerOne - q : ℚ) =
      ((m * 2 ^ e : Nat) - q * unitsPerOne) / unitsPerOne := by
    rw [sub_div, mul_div_cancel_right₀ _ (ne_of_gt hone)]
  rw [hunits, hvalue, abs_div, abs_of_pos hone, div_le_iff₀ hone, div_mul_eq_mul_div, hscale]
  generalize (2 ^ (k + 1021) : ℚ) = step at herror
  linarith

/-- One as a power of two above another unit. -/
theorem unitsPerOne_eq_mul {bits : Nat} (h : bits ≤ 1074) :
    unitsPerOne = 2 ^ bits * 2 ^ (1074 - bits) := by
  have hpow : ∀ units one : Nat, one = 2 ^ units → bits ≤ units →
      one = 2 ^ bits * 2 ^ (units - bits) := by
    intro units one hone hbits
    rw [hone, ← Nat.pow_add]
    congr 1
    omega
  exact hpow 1074 _ unitsPerOne.eq_1 h

/-- A quotient of at most 53 bits is met exactly. -/
theorem Nearest.exists_finite_eq {bits : Nat} (h : x.Nearest negative (c / 2 ^ bits))
    (hc : c < 2 ^ 53) (hbits : bits ≤ 1074) :
    ∃ mantissa exponent canonical, x = .finite negative mantissa exponent canonical ∧
      ((mantissa * 2 ^ exponent : Nat) / unitsPerOne : ℚ) = c / 2 ^ bits := by
  obtain ⟨m, e, hrounds, hmagnitude⟩ := h
  have hone : (unitsPerOne : ℚ) = 2 ^ bits * 2 ^ (1074 - bits) := by
    exact_mod_cast unitsPerOne_eq_mul hbits
  have hpow := Rounds.two_pow_pos bits
  have hstep := Rounds.two_pow_pos (1074 - bits)
  have hunits : (c / 2 ^ bits * unitsPerOne : ℚ) = (c * 2 ^ (1074 - bits) : Nat) := by
    rw [hone, ← mul_assoc, div_mul_cancel₀ _ (ne_of_gt hpow)]
    push_cast
    rfl
  rw [hrounds.eq_of_multiple hunits hc] at hmagnitude
  obtain ⟨mantissa, exponent, canonical, heq, hvalue⟩ :=
    hmagnitude.exists_finite (lt_tooLarge (by omega) (by omega))
  refine ⟨mantissa, exponent, canonical, heq, ?_⟩
  rw [hvalue, Nat.cast_mul, Nat.cast_pow, Nat.cast_ofNat, hone,
    mul_div_mul_right _ _ (ne_of_gt hstep)]

section Finite

variable {sign : Bool} {mantissa exponent : Nat} {canonical : Canonical mantissa exponent}

/-- How far off a finite number is. -/
theorem Nearest.abs_sub_le (h : (finite sign mantissa exponent canonical).Nearest negative q)
    (hk : k ≤ 1000) (hq : q < 2 ^ k) :
    |((mantissa * 2 ^ exponent : Nat) / unitsPerOne : ℚ) - q| ≤ 2 ^ k / 2 ^ 54 := by
  obtain ⟨_, _, _, heq, herror⟩ := h.exists_finite hk hq
  cases heq
  exact herror

/-- Where a finite number is exact. -/
theorem Nearest.eq_of_bits {bits : Nat}
    (h : (finite sign mantissa exponent canonical).Nearest negative (c / 2 ^ bits))
    (hc : c < 2 ^ 53) (hbits : bits ≤ 1074) :
    ((mantissa * 2 ^ exponent : Nat) / unitsPerOne : ℚ) = c / 2 ^ bits := by
  obtain ⟨_, _, _, heq, hexact⟩ := h.exists_finite_eq hc hbits
  cases heq
  exact hexact

end Finite

theorem signed_sub (negative : Bool) (p q : ℚ) :
    |signed negative p - signed negative q| = |p - q| := by
  cases negative
  · rfl
  · rw [signed, signed, if_pos rfl, if_pos rfl, neg_sub_neg, abs_sub_comm]

/-- Quotients that are further apart than the numbers nearest to them are off stay apart. -/
theorem Nearest.lt_of_error_lt (hx : x.Nearest a p) (hy : y.Nearest b q) (hk : k ≤ 1000)
    (hp : p < 2 ^ k) (hq : q < 2 ^ k) (h : signed a p + 2 ^ k / 2 ^ 53 < signed b q) :
    (Number.float x).lt (.float y) = true := by
  have hone : (0 : ℚ) < unitsPerOne := Nat.cast_pos.mpr unitsPerOne_pos
  obtain ⟨m, d, canonical, rfl, herror⟩ := hx.exists_finite hk hp
  obtain ⟨n, e, canonical', rfl, herror'⟩ := hy.exists_finite hk hq
  rw [← signed_sub a, abs_le] at herror
  rw [← signed_sub b, abs_le] at herror'
  have hvalue : signed a ((m * 2 ^ d : Nat) / unitsPerOne) <
      signed b ((n * 2 ^ e : Nat) / unitsPerOne) := by
    linarith
  have hunits : withSign a (m * 2 ^ d) < withSign b (n * 2 ^ e) := by
    rw [← @Int.cast_lt ℚ, cast_withSign, cast_withSign]
    have := mul_lt_mul_of_pos_right hvalue hone
    rwa [signed_mul, signed_mul, div_mul_cancel₀ _ (ne_of_gt hone),
      div_mul_cancel₀ _ (ne_of_gt hone)] at this
  simpa [Number.lt, Number.place?, place?, Place.lt] using hunits

/-- Quotients with no multiple of a power of two between them that is a 54th bit of theirs have the
same nearest number. -/
theorem Nearest.le_of_no_multiple {bits : Nat} (hbits : bits ≤ 1074) (hx : x.Nearest negative p)
    (hy : y.Nearest negative q) (hle : p ≤ q) (hlarge : 2 ^ 53 ≤ p * 2 ^ bits)
    (hnone : ∀ c : Nat, ¬ (p * 2 ^ bits ≤ c ∧ c ≤ q * 2 ^ bits)) :
    (Number.float x).le (.float y) = true ∧ (Number.float y).le (.float x) = true := by
  obtain ⟨m, d, hm, hx⟩ := hx
  obtain ⟨n, e, hn, hy⟩ := hy
  have hone : (unitsPerOne : ℚ) = 2 ^ bits * 2 ^ (1074 - bits) := by
    exact_mod_cast unitsPerOne_eq_mul hbits
  have hstep := Rounds.two_pow_pos (1074 - bits)
  have hscale : ∀ r : ℚ, r * unitsPerOne = r * 2 ^ bits * 2 ^ (1074 - bits) := by
    intro r
    rw [hone, mul_assoc]
  have hequal : m * 2 ^ d = n * 2 ^ e := by
    refine @Rounds.eq_of_no_multiple _ _ m n d e (1074 - bits) hm hn ?_ ?_ ?_
    · exact mul_le_mul_of_nonneg_right hle (Nat.cast_nonneg _)
    · rw [hscale]
      exact mul_le_mul_of_nonneg_right hlarge (le_of_lt hstep)
    · rintro c ⟨hlow, hhigh⟩
      rw [hscale, Nat.cast_mul, Nat.cast_pow, Nat.cast_ofNat] at hlow hhigh
      exact hnone c ⟨le_of_mul_le_mul_right hlow hstep, le_of_mul_le_mul_right hhigh hstep⟩
  rw [hequal] at hx
  exact ⟨hx.le hy (Int.le_refl _), hy.le hx (Int.le_refl _)⟩

end Binary64

end Intake.Numeric
