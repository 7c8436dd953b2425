import Intake.Proofs.Numeric.Whole
import Mathlib.Algebra.Order.AbsoluteValue.Basic
import Mathlib.Algebra.Order.Field.Rat
import Mathlib.Algebra.Order.Field.Basic
import Mathlib.Tactic.FieldSimp
import Mathlib.Tactic.Linarith
import Mathlib.Tactic.Ring

/-!
# What a quotient is rounded to

A quotient is rounded to a multiple of the power of two that leaves 53 bits of it.  How that
multiple is found does not matter: it is no further away than half of the power, and this with the
size of the quotient settles everything that is said here.  Magnitudes are counted in units of
`2 ^ (-1074)`.

## Main definitions

* `Decimal.magnitude` — the value of a decimal without its sign.
* `NearestWhole` — a whole number is the nearest one to a quotient.
* `Rounds` — a magnitude is rounded to a multiple of a power of two.
* `Binary64.Nearest` — a binary number is the nearest one to a magnitude with a sign.

## Main statements

* `NearestWhole.mono`, `Rounds.mono` — rounding keeps the order.
* `Rounds.abs_sub_le`, `Rounds.eq_of_multiple` — how far off it is, and where it is exact.
* `Rounds.eq_of_no_multiple` — magnitudes with no halfway case between them are rounded alike.
* `Binary64.nearest_ofRatio`, `Binary64.nearest_ofDecimal` — quotients and decimals are rounded in
  this way.
-/

namespace Intake.Numeric

/-! ## Multiples of a power of ten -/

theorem powerRatio_pos (num : Nat) {den : Nat} (hden : 0 < den) (power : Int) :
    0 < (powerRatio num den power).2 := by
  rw [powerRatio]
  split
  · exact Nat.mul_pos hden (Nat.pow_pos (by decide))
  · exact hden

/-- Counting in units of a power of ten is division by it. -/
theorem powerRatio_div (num den : Nat) (power : Int) :
    ((powerRatio num den power).1 / (powerRatio num den power).2 : ℚ) =
      num / den / 10 ^ power := by
  obtain ⟨k, rfl | rfl⟩ := power.eq_nat_or_neg
  · rw [powerRatio_natCast, zpow_natCast, div_div]
    push_cast
    rfl
  · rw [powerRatio_neg_natCast, zpow_neg, zpow_natCast, div_inv_eq_mul, div_mul_eq_mul_div]
    push_cast
    rfl

section PowerRatio

variable {num den n : Nat} {power : Int}

theorem powerRatio_le_iff (hden : 0 < den) :
    (powerRatio num den power).1 ≤ n * (powerRatio num den power).2 ↔
      (num / den : ℚ) ≤ n * 10 ^ power := by
  have hpos : (0 : ℚ) < (powerRatio num den power).2 :=
    Nat.cast_pos.mpr (powerRatio_pos num hden power)
  have hten : (0 : ℚ) < 10 ^ power := zpow_pos (by decide) power
  rw [← div_le_iff₀ hten, ← powerRatio_div, div_le_iff₀ hpos]
  norm_cast

theorem powerRatio_lt_iff (hden : 0 < den) :
    (powerRatio num den power).1 < n * (powerRatio num den power).2 ↔
      (num / den : ℚ) < n * 10 ^ power := by
  have hpos : (0 : ℚ) < (powerRatio num den power).2 :=
    Nat.cast_pos.mpr (powerRatio_pos num hden power)
  have hten : (0 : ℚ) < 10 ^ power := zpow_pos (by decide) power
  rw [← div_lt_iff₀ hten, ← powerRatio_div, div_lt_iff₀ hpos]
  norm_cast

theorem le_powerRatio_iff (hden : 0 < den) :
    n * (powerRatio num den power).2 ≤ (powerRatio num den power).1 ↔
      (n * 10 ^ power : ℚ) ≤ num / den := by
  rw [← Nat.not_lt, powerRatio_lt_iff hden, not_lt]

theorem lt_powerRatio_iff (hden : 0 < den) :
    n * (powerRatio num den power).2 < (powerRatio num den power).1 ↔
      (n * 10 ^ power : ℚ) < num / den := by
  rw [← Nat.not_le, powerRatio_le_iff hden, not_le]

end PowerRatio

/-! ## Decimals -/

/-- The value of a decimal without its sign. -/
def Decimal.magnitude (d : Decimal) : ℚ :=
  d.coefficient * 10 ^ d.exponent

namespace Binary64

/-- A power of ten that is far larger than the units of a coefficient. -/
theorem mul_unitsPerOne_lt {n k : Nat} (hk : 400 + 4 * n.log2 < k) :
    n * (2 * unitsPerOne) < 10 ^ k := by
  have hpow : ∀ units one : Nat, one = 2 ^ units → n.log2 + 1 + (1 + units) ≤ 3 * k →
      n * (2 * one) < 10 ^ k := by
    intro units one hone hle
    calc n * (2 * one)
      _ < 2 ^ (n.log2 + 1) * (2 * one) :=
        Nat.mul_lt_mul_of_pos_right Nat.lt_log2_self
          (Nat.mul_pos (by decide) (hone ▸ Nat.two_pow_pos _))
      _ = 2 ^ (n.log2 + 1 + (1 + units)) := by
        rw [hone, Nat.pow_add 2 (n.log2 + 1), Nat.pow_add 2 1]
      _ ≤ (2 ^ 3) ^ k := by
        rw [← Nat.pow_mul]
        exact Nat.pow_le_pow_right (by decide) hle
      _ ≤ 10 ^ k := Nat.pow_le_pow_left (by decide) k
  exact hpow 1074 _ unitsPerOne.eq_1 (by omega)

end Binary64

/-! ## The nearest whole number -/

/-- A quotient is no further from its rounding than one half, and closer if that is odd. -/
theorem roundHalfEven_near (num : Nat) {den : Nat} (hden : 0 < den) :
    2 * roundHalfEven num den * den ≤ 2 * num + den ∧
      2 * num ≤ (2 * roundHalfEven num den + 1) * den ∧
      (roundHalfEven num den % 2 = 1 → 2 * roundHalfEven num den * den < 2 * num + den ∧
        2 * num < (2 * roundHalfEven num den + 1) * den) := by
  have hmod := Nat.mod_lt num hden
  have hdiv := Nat.div_add_mod num den
  rw [roundHalfEven]
  generalize num / den = q at hdiv ⊢
  generalize num % den = r at hmod hdiv ⊢
  have hsucc : 2 * (q + 1) * den = 2 * (den * q) + 2 * den := by ring
  have hsame : 2 * q * den = 2 * (den * q) := by ring
  split
  · rw [Nat.add_mul, hsame]
    omega
  · split
    · rw [Nat.add_mul, hsucc]
      omega
    · obtain heven | hodd := Nat.mod_two_eq_zero_or_one q
      · rw [heven, Nat.add_zero, Nat.add_mul, hsame]
        omega
      · rw [hodd, Nat.add_mul, hsucc]
        omega

/-- A whole number is the nearest one to a quotient; between two of them it is the even one. -/
structure NearestWhole (q : ℚ) (n : Nat) : Prop where
  below : n - 1 / 2 ≤ q
  above : q ≤ n + 1 / 2
  odd : n % 2 = 1 → n - 1 / 2 < q ∧ q < n + 1 / 2

theorem nearestWhole_roundHalfEven (num : Nat) {den : Nat} (hden : 0 < den) :
    NearestWhole (num / den) (roundHalfEven num den) := by
  have hden' : (0 : ℚ) < den := Nat.cast_pos.mpr hden
  obtain ⟨hlow, hhigh, hodd⟩ := roundHalfEven_near num hden
  generalize roundHalfEven num den = n at hlow hhigh hodd ⊢
  have hlow' : (2 * n * den : ℚ) ≤ 2 * num + den := by exact_mod_cast hlow
  have hhigh' : (2 * num : ℚ) ≤ (2 * n + 1) * den := by exact_mod_cast hhigh
  constructor
  · rw [le_div_iff₀ hden']
    linarith
  · rw [div_le_iff₀ hden']
    linarith
  · intro h
    obtain ⟨hlow, hhigh⟩ := hodd h
    have hlow' : (2 * n * den : ℚ) < 2 * num + den := by exact_mod_cast hlow
    have hhigh' : (2 * num : ℚ) < (2 * n + 1) * den := by exact_mod_cast hhigh
    rw [lt_div_iff₀ hden', div_lt_iff₀ hden']
    constructor <;> linarith

theorem NearestWhole.self (n : Nat) : NearestWhole n n :=
  ⟨by linarith, by linarith, fun _ => ⟨by linarith, by linarith⟩⟩

/-- The nearest whole numbers are in the order of the quotients. -/
theorem NearestWhole.mono {p q : ℚ} {m n : Nat} (hm : NearestWhole p m) (hn : NearestWhole q n)
    (hle : p ≤ q) : m ≤ n := by
  refine Nat.le_of_not_lt fun hlt => ?_
  have hbelow := hm.below
  have habove := hn.above
  have hsucc : (n + 1 : ℚ) ≤ m := by exact_mod_cast hlt
  -- The quotients meet halfway between two neighbours, and one of these is odd.
  have hnext : (n + 1 : ℚ) = m := by linarith
  have hnext' : n + 1 = m := by exact_mod_cast hnext
  obtain hodd | hodd : m % 2 = 1 ∨ n % 2 = 1 := by omega
  · have := (hm.odd hodd).1
    linarith
  · have := (hn.odd hodd).2
    linarith

/-! ## Rounding to 53 bits -/

/-- A magnitude is rounded to the multiple `mantissa * 2 ^ exponent`: the power of two leaves 53
bits of the magnitude, or it is the lowest, and the multiple is the nearest one, in halfway cases
the even one. -/
structure Rounds (x : ℚ) (mantissa exponent : Nat) : Prop where
  nonneg : 0 ≤ x
  low : exponent = 0 ∨ 2 ^ 52 * 2 ^ exponent ≤ x
  high : x < 2 ^ 53 * 2 ^ exponent
  nearest : NearestWhole (x / 2 ^ exponent) mantissa

namespace Rounds

variable {x y : ℚ} {m n d e : Nat}

theorem two_pow_pos (e : Nat) : (0 : ℚ) < 2 ^ e :=
  pow_pos (by decide) e

theorem two_pow_le {d e : Nat} (h : d ≤ e) : (2 ^ d : ℚ) ≤ 2 ^ e :=
  pow_le_pow_right₀ (by decide) h

theorem below (h : Rounds x m e) : (m - 1 / 2 : ℚ) * 2 ^ e ≤ x :=
  (le_div_iff₀ (two_pow_pos e)).mp h.nearest.below

theorem above (h : Rounds x m e) : x ≤ (m + 1 / 2 : ℚ) * 2 ^ e :=
  (div_le_iff₀ (two_pow_pos e)).mp h.nearest.above

/-- The power of two is no larger than the size of the magnitude asks for. -/
theorem exponent_le (h : Rounds x m e) (hx : x < 2 ^ 53 * 2 ^ d) : e ≤ d := by
  by_contra hlt
  have hlow := h.low.resolve_left (by omega)
  have hpow : (2 ^ (d + 1) : ℚ) ≤ 2 ^ e := two_pow_le (by omega)
  rw [pow_succ] at hpow
  linarith

theorem mantissa_le (h : Rounds x m e) : m ≤ 2 ^ 53 := by
  have hlt := lt_of_mul_lt_mul_right (lt_of_le_of_lt h.below h.high) (le_of_lt (two_pow_pos e))
  have : (m : ℚ) < (2 ^ 53 + 1 : Nat) := by
    push_cast
    linarith
  exact Nat.le_of_lt_succ (Nat.cast_lt.mp this)

theorem le_mantissa (h : Rounds x m e) (he : e ≠ 0) : 2 ^ 52 ≤ m := by
  have hle := le_of_mul_le_mul_right (le_trans (h.low.resolve_left he) h.above) (two_pow_pos e)
  have : ((2 ^ 52 : Nat) : ℚ) < (m + 1 : Nat) := by
    push_cast
    linarith
  exact Nat.le_of_lt_succ (Nat.cast_lt.mp this)

/-- Rounding keeps the order. -/
theorem mono (hx : Rounds x m d) (hy : Rounds y n e) (hle : x ≤ y) :
    m * 2 ^ d ≤ n * 2 ^ e := by
  rcases Nat.lt_trichotomy d e with hlt | rfl | hlt
  · calc m * 2 ^ d ≤ 2 ^ 53 * 2 ^ d := Nat.mul_le_mul_right _ hx.mantissa_le
      _ = 2 ^ 52 * 2 ^ (d + 1) := by ring
      _ ≤ 2 ^ 52 * 2 ^ e := Nat.mul_le_mul_left _ (Nat.pow_le_pow_right (by decide) hlt)
      _ ≤ n * 2 ^ e := Nat.mul_le_mul_right _ (hy.le_mantissa (by omega))
  · have hle' := div_le_div_of_nonneg_right hle (le_of_lt (two_pow_pos d))
    exact Nat.mul_le_mul_right _ (hx.nearest.mono hy.nearest hle')
  · exact absurd (hx.exponent_le (lt_of_le_of_lt hle hy.high)) (by omega)

/-- Rounding is no further off than half of the power of two that the size of the magnitude asks
for. -/
theorem abs_sub_le (h : Rounds x m e) (hx : x < 2 ^ 53 * 2 ^ d) :
    |((m * 2 ^ e : Nat) : ℚ) - x| ≤ 2 ^ d / 2 := by
  have hpow := two_pow_le (h.exponent_le hx)
  have hbelow := h.below
  have habove := h.above
  rw [abs_le]
  push_cast
  constructor <;> linarith

/-- A multiple of a power of two is rounded to itself if it has at most 53 bits. -/
theorem eq_of_multiple {c : Nat} (h : Rounds x m e) (hx : x = (c * 2 ^ d : Nat))
    (hc : c < 2 ^ 53) : m * 2 ^ e = c * 2 ^ d := by
  have hle : e ≤ d := by
    refine h.exponent_le ?_
    rw [hx]
    exact_mod_cast Nat.mul_lt_mul_of_pos_right hc (Nat.two_pow_pos d)
  obtain ⟨k, rfl⟩ := Nat.exists_eq_add_of_le hle
  have hpow := two_pow_pos e
  have hx' : x = (c * 2 ^ k : Nat) * 2 ^ e := by
    rw [hx, pow_add]
    push_cast
    ring
  have hbelow := le_of_mul_le_mul_right (hx' ▸ h.below) hpow
  have habove := le_of_mul_le_mul_right (hx' ▸ h.above) hpow
  have hlow : (m : ℚ) < (c * 2 ^ k + 1 : Nat) := by
    push_cast at hbelow ⊢
    linarith
  have hhigh : ((c * 2 ^ k : Nat) : ℚ) < (m + 1 : Nat) := by
    push_cast at habove ⊢
    linarith
  have hm : m = c * 2 ^ k := by
    have := Nat.cast_lt.mp hlow
    have := Nat.cast_lt.mp hhigh
    omega
  rw [hm, Nat.pow_add, Nat.mul_assoc, Nat.mul_comm (2 ^ k)]

/-- Magnitudes are rounded alike if no multiple of a power of two lies between them that is a 54th
bit of theirs: the halfway cases are such multiples. -/
theorem eq_of_no_multiple {k : Nat} (hx : Rounds x m d) (hy : Rounds y n e) (hle : x ≤ y)
    (hlarge : 2 ^ 53 * 2 ^ k ≤ x)
    (hnone : ∀ c : Nat, ¬ (x ≤ (c * 2 ^ k : Nat) ∧ ((c * 2 ^ k : Nat) : ℚ) ≤ y)) :
    m * 2 ^ d = n * 2 ^ e := by
  refine Nat.le_antisymm (hx.mono hy hle) (Nat.le_of_not_lt fun hlt => ?_)
  have hk : k < d := by
    by_contra hge
    have hpow := two_pow_le (Nat.le_of_not_lt hge)
    have := hx.high
    linarith
  have hde : d ≤ e := hx.exponent_le (lt_of_le_of_lt hle hy.high)
  obtain rfl | hde := Nat.eq_or_lt_of_le hde
  · obtain ⟨more, rfl⟩ := Nat.exists_eq_add_of_lt hk
    refine hnone ((2 * m + 1) * 2 ^ more) ?_
    have hpow := two_pow_pos (k + more + 1)
    have hhalf : (((2 * m + 1) * 2 ^ more * 2 ^ k : Nat) : ℚ) =
        (m + 1 / 2) * 2 ^ (k + more + 1) := by
      push_cast
      ring
    have hmn : (m + 1 : ℚ) ≤ n := by exact_mod_cast Nat.lt_of_mul_lt_mul_right hlt
    rw [hhalf]
    refine ⟨hx.above, le_trans ?_ hy.below⟩
    exact mul_le_mul_of_nonneg_right (by linarith) (le_of_lt hpow)
  · obtain ⟨more, rfl⟩ := Nat.exists_eq_add_of_lt hk
    refine hnone (2 ^ 53 * 2 ^ (more + 1)) ?_
    have hwhole : ((2 ^ 53 * 2 ^ (more + 1) * 2 ^ k : Nat) : ℚ) =
        2 ^ 53 * 2 ^ (k + more + 1) := by
      push_cast
      ring
    have hpow := two_pow_le (Nat.succ_le_of_lt hde)
    rw [Nat.succ_eq_add_one, pow_succ] at hpow
    have hlow := hy.low.resolve_left (by omega)
    rw [hwhole]
    exact ⟨le_of_lt hx.high, by linarith⟩

end Rounds

/-! ## Binary numbers by their magnitude -/

namespace Binary64

/-- The least magnitude that is too large for a finite number. -/
def tooLarge : Nat := 2 ^ 2098

/-- A number has the given sign and is so many units away from zero, or it is infinite and so many
units are too many. -/
def HasMagnitude (negative : Bool) (units : Nat) : Binary64 → Prop
  | .nan _ => False
  | .infinite sign => sign = negative ∧ tooLarge ≤ units
  | .finite sign mantissa exponent _ => sign = negative ∧ mantissa * 2 ^ exponent = units

theorem hasMagnitude_pack_of_canonical {negative : Bool} {mantissa exponent : Nat}
    (h : Canonical mantissa exponent) :
    (pack negative mantissa exponent).HasMagnitude negative (mantissa * 2 ^ exponent) := by
  rw [pack, dif_pos h]
  exact ⟨rfl, rfl⟩

theorem tooLarge_le {mantissa exponent : Nat} (hmantissa : 2 ^ 52 ≤ mantissa)
    (hexponent : 2046 ≤ exponent) : tooLarge ≤ mantissa * 2 ^ exponent := by
  have hpow : ∀ bits limit : Nat, limit = 2 ^ bits → bits ≤ 52 + exponent →
      limit ≤ mantissa * 2 ^ exponent := by
    intro bits limit hlimit hbits
    calc limit ≤ 2 ^ (52 + exponent) := hlimit ▸ Nat.pow_le_pow_right (by decide) hbits
      _ = 2 ^ 52 * 2 ^ exponent := Nat.pow_add ..
      _ ≤ mantissa * 2 ^ exponent := Nat.mul_le_mul_right _ hmantissa
  exact hpow 2098 _ tooLarge.eq_1 (by omega)

theorem mul_two_pow_lt_tooLarge {mantissa exponent : Nat} (h : Canonical mantissa exponent) :
    mantissa * 2 ^ exponent < tooLarge := by
  have hpow : ∀ bits limit : Nat, limit = 2 ^ bits → 53 + exponent ≤ bits →
      mantissa * 2 ^ exponent < limit := by
    intro bits limit hlimit hbits
    calc mantissa * 2 ^ exponent
      _ < 2 ^ 53 * 2 ^ exponent := Nat.mul_lt_mul_of_pos_right h.1 (Nat.two_pow_pos _)
      _ = 2 ^ (53 + exponent) := (Nat.pow_add ..).symm
      _ ≤ limit := hlimit ▸ Nat.pow_le_pow_right (by decide) hbits
  have := h.2.2
  exact hpow 2098 _ tooLarge.eq_1 (by omega)

/-- A mantissa and an exponent are told from another by the value. -/
theorem eq_of_units_eq {m d n e : Nat} (hm : Canonical m d) (hn : Canonical n e)
    (h : m * 2 ^ d = n * 2 ^ e) : m = n ∧ d = e := by
  have hlt : ∀ {m d n e : Nat}, Canonical m d → Canonical n e → d < e →
      m * 2 ^ d < n * 2 ^ e := by
    intro m d n e hm hn hlt
    calc m * 2 ^ d < 2 ^ 53 * 2 ^ d := Nat.mul_lt_mul_of_pos_right hm.1 (Nat.two_pow_pos d)
      _ = 2 ^ 52 * 2 ^ (d + 1) := by ring
      _ ≤ 2 ^ 52 * 2 ^ e := Nat.mul_le_mul_left _ (Nat.pow_le_pow_right (by decide) hlt)
      _ ≤ n * 2 ^ e := Nat.mul_le_mul_right _ (hn.2.1.resolve_right (by omega))
  rcases Nat.lt_trichotomy d e with hde | rfl | hde
  · exact absurd h (Nat.ne_of_lt (hlt hm hn hde))
  · exact ⟨Nat.eq_of_mul_eq_mul_right (Nat.two_pow_pos d) h, rfl⟩
  · exact absurd h.symm (Nat.ne_of_lt (hlt hn hm hde))

/-- What has a magnitude that is not too large is finite. -/
theorem HasMagnitude.exists_finite {negative : Bool} {m : Nat} {x : Binary64}
    (h : x.HasMagnitude negative m) (hm : m < tooLarge) :
    ∃ mantissa exponent canonical, x = .finite negative mantissa exponent canonical ∧
      mantissa * 2 ^ exponent = m := by
  cases x with
  | nan payload => cases h
  | infinite sign => exact absurd h.2 (Nat.not_le_of_lt hm)
  | finite sign mantissa exponent canonical =>
    obtain ⟨rfl, rfl⟩ := h
    exact ⟨mantissa, exponent, canonical, rfl, rfl⟩

/-- A mantissa of 53 bits, or of fewer at the lowest exponent, is put together with its exponent. -/
theorem hasMagnitude_pack {negative : Bool} {mantissa exponent : Nat} (hlt : mantissa < 2 ^ 53)
    (hbits : exponent ≠ 0 → 2 ^ 52 ≤ mantissa) :
    (pack negative mantissa exponent).HasMagnitude negative (mantissa * 2 ^ exponent) := by
  by_cases hexponent : exponent ≤ 2045
  · exact hasMagnitude_pack_of_canonical ⟨hlt, by omega, hexponent⟩
  · rw [pack, dif_neg fun h => hexponent h.2.2]
    exact ⟨rfl, tooLarge_le (hbits (by omega)) (by omega)⟩

/-- A number is the nearest one to a magnitude with a sign; infinity counts for what is too
large. -/
def Nearest (negative : Bool) (q : ℚ) (x : Binary64) : Prop :=
  ∃ m e, Rounds (q * unitsPerOne) m e ∧ x.HasMagnitude negative (m * 2 ^ e)

theorem nearest_ofRatio (negative : Bool) (num : Nat) {den : Nat} (hden : 0 < den) :
    (ofRatio negative num den).Nearest negative (num / den) := by
  have hden' : (0 : ℚ) < den := Nat.cast_pos.mpr hden
  have hvalue : (num / den * unitsPerOne : ℚ) = (num * unitsPerOne : Nat) / den := by
    push_cast
    ring
  rw [Nearest, ofRatio, hvalue]
  generalize num * unitsPerOne = scaled
  generalize hexponent : (scaled / den).log2 - 52 = exponent
  have hstep : 0 < den * 2 ^ exponent := Nat.mul_pos hden (Nat.two_pow_pos _)
  have hlow : exponent = 0 ∨ 2 ^ 52 * 2 ^ exponent * den ≤ scaled := by
    refine or_iff_not_imp_left.mpr fun hne => ?_
    have hquotient : scaled / den ≠ 0 := by
      intro hzero
      rw [hzero] at hexponent
      exact hne (by simpa using hexponent.symm)
    rw [← Nat.le_div_iff_mul_le hden, ← Nat.pow_add]
    exact Nat.le_trans (Nat.pow_le_pow_right (by decide) (by omega)) (Nat.log2_self_le hquotient)
  have hhigh : scaled < 2 ^ 53 * 2 ^ exponent * den := by
    rw [← Nat.div_lt_iff_lt_mul hden, ← Nat.pow_add]
    exact Nat.lt_of_lt_of_le Nat.lt_log2_self (Nat.pow_le_pow_right (by decide) (by omega))
  have hrounds : Rounds (scaled / den) (roundHalfEven scaled (den * 2 ^ exponent)) exponent := by
    have hquotient : (scaled / (den * 2 ^ exponent : Nat) : ℚ) = scaled / den / 2 ^ exponent := by
      push_cast
      rw [div_div]
    refine ⟨div_nonneg (Nat.cast_nonneg _) (Nat.cast_nonneg _), hlow.imp_right fun h => ?_, ?_,
      hquotient ▸ nearestWhole_roundHalfEven scaled hstep⟩
    · rw [le_div_iff₀ hden']
      exact_mod_cast h
    · rw [div_lt_iff₀ hden']
      exact_mod_cast hhigh
  generalize roundHalfEven scaled (den * 2 ^ exponent) = mantissa at hrounds ⊢
  refine ⟨mantissa, exponent, hrounds, ?_⟩
  split
  · rename_i hcarry
    have hsame : mantissa * 2 ^ exponent = 2 ^ 52 * 2 ^ (exponent + 1) := by
      rw [hcarry]
      ring
    rw [hsame]
    exact hasMagnitude_pack (by decide) fun _ => Nat.le_refl _
  · have := hrounds.mantissa_le
    exact hasMagnitude_pack (by omega) hrounds.le_mantissa

/-- What is larger than all finite numbers is rounded to a magnitude that is too large. -/
theorem tooLarge_le_of_rounds {x : ℚ} {m e : Nat} (h : Rounds x m e)
    (hx : ((2 ^ 53 * 2 ^ 2045 : Nat) : ℚ) ≤ x) : tooLarge ≤ m * 2 ^ e := by
  have hexponent : ∀ most : Nat, ((2 ^ 53 * 2 ^ most : Nat) : ℚ) ≤ x → most < e := by
    intro most hle
    by_contra hlt
    have hpow := Rounds.two_pow_le (Nat.le_of_not_lt hlt)
    have := h.high
    push_cast at hle
    linarith
  have he := hexponent 2045 hx
  exact tooLarge_le (h.le_mantissa (by omega)) he

/-- A power of ten that is larger than all finite numbers. -/
theorem two_pow_le_mul_unitsPerOne {n k : Nat} (hn : n ≠ 0) (hk : 400 < k) :
    2 ^ 53 * 2 ^ 2045 ≤ n * 10 ^ k * unitsPerOne := by
  -- The powers are kept apart from their values, which are too large to write down.
  have hpow : ∀ most units one : Nat, one = 2 ^ units → 53 + most ≤ 3 * k + units →
      2 ^ 53 * 2 ^ most ≤ n * 10 ^ k * one := by
    intro most units one hone hle
    calc 2 ^ 53 * 2 ^ most = 2 ^ (53 + most) := (Nat.pow_add ..).symm
      _ ≤ 2 ^ (3 * k + units) := Nat.pow_le_pow_right (by decide) hle
      _ = (2 ^ 3) ^ k * one := by rw [hone, ← Nat.pow_mul, ← Nat.pow_add]
      _ ≤ 10 ^ k * one := Nat.mul_le_mul_right _ (Nat.pow_le_pow_left (by decide) k)
      _ ≤ n * 10 ^ k * one :=
        Nat.mul_le_mul_right _ (Nat.le_mul_of_pos_left _ (Nat.pos_of_ne_zero hn))
  exact hpow 2045 1074 _ unitsPerOne.eq_1 (by omega)

/-- What is at most half a unit is rounded to zero. -/
theorem nearest_zero (negative : Bool) {q : ℚ} (hq : 0 ≤ q) (hhalf : q * (2 * unitsPerOne) ≤ 1) :
    (zero negative).Nearest negative q := by
  have hunits : 0 ≤ q * unitsPerOne := mul_nonneg hq (Nat.cast_nonneg _)
  refine ⟨0, 0, ⟨hunits, .inl rfl, ?_, ?_, ?_, fun h => absurd h (by decide)⟩, rfl, rfl⟩
  · linarith
  · rw [pow_zero, div_one]
    exact le_trans (by norm_num) hunits
  · rw [pow_zero, div_one]
    push_cast
    linarith

/-- Decimals are rounded in the same way: the exponents that are decided beforehand are those of
decimals beyond all finite numbers, or next to zero. -/
theorem nearest_ofDecimal (d : Decimal) : (ofDecimal d).Nearest d.negative d.magnitude := by
  have hnonneg : 0 ≤ d.magnitude :=
    mul_nonneg (Nat.cast_nonneg _) (le_of_lt (zpow_pos (by decide) _))
  rw [ofDecimal]
  split
  · rename_i hcoefficient
    refine nearest_zero d.negative hnonneg ?_
    rw [Decimal.magnitude, hcoefficient, Nat.cast_zero, zero_mul, zero_mul]
    exact zero_le_one
  · rename_i hcoefficient
    split
    · rename_i hlarge
      obtain ⟨k, hk⟩ := Int.eq_ofNat_of_zero_le (a := d.exponent) (by omega)
      have hvalue : d.magnitude = (d.coefficient * 10 ^ k : Nat) / (1 : Nat) := by
        rw [Decimal.magnitude, hk, zpow_natCast]
        push_cast
        ring
      obtain ⟨m, e, hrounds, -⟩ :=
        nearest_ofRatio d.negative (d.coefficient * 10 ^ k) Nat.one_pos
      refine ⟨m, e, hvalue ▸ hrounds, rfl, tooLarge_le_of_rounds hrounds ?_⟩
      rw [Nat.cast_one, div_one, ← Nat.cast_mul, Nat.cast_le]
      exact two_pow_le_mul_unitsPerOne hcoefficient (by omega)
    · split
      · rename_i hsmall
        obtain ⟨k, hk⟩ := Int.eq_ofNat_of_zero_le (a := -d.exponent) (by omega)
        have hten : (0 : ℚ) < (10 ^ k : Nat) := Nat.cast_pos.mpr (Nat.pow_pos (by decide))
        have hvalue : d.magnitude * (2 * unitsPerOne) =
            (d.coefficient * (2 * unitsPerOne) : Nat) / (10 ^ k : Nat) := by
          rw [Decimal.magnitude, ← neg_neg d.exponent, hk, zpow_neg, zpow_natCast]
          push_cast
          ring
        refine nearest_zero d.negative hnonneg ?_
        rw [hvalue, div_le_one hten, Nat.cast_le]
        exact Nat.le_of_lt (mul_unitsPerOne_lt (by omega))
      · have hvalue : d.magnitude = ((powerRatio d.coefficient 1 (-d.exponent)).1 /
            (powerRatio d.coefficient 1 (-d.exponent)).2 : ℚ) := by
          rw [powerRatio_div, Nat.cast_one, div_one, zpow_neg, div_inv_eq_mul, Decimal.magnitude]
        rw [hvalue]
        exact nearest_ofRatio d.negative _ (powerRatio_pos _ Nat.one_pos _)

end Binary64

end Intake.Numeric
