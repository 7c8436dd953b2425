import Intake.Proofs.Numeric.Ordered

/-!
# Decimal places

A number is rounded to decimal places by way of its shortest decimal.  The sign takes no part in
this, and a number that has been rounded is not changed by being rounded again: its shortest decimal
has no more places than any other decimal that reads back as the number.

The one exception is a decimal beyond the leading power of ten of the number that it reads back as.
It is a power of ten itself, just above the number, and the shortest decimal is near enough to be
rounded up to it.

## Main statements

* `Binary64.roundPlaces_neg` — numbers of opposite signs are rounded to numbers of opposite signs.
* `le_exponent_shortestDecimal` — the shortest decimal is a multiple of the largest power of ten.
* `Binary64.roundPlaces_ofDecimal` — a decimal of so many places is left alone.
* `Binary64.roundPlaces_roundPlaces` — rounding again changes nothing.
-/

namespace Intake.Numeric

namespace Binary64

/-! ## Signs -/

theorem neg_pack (negative : Bool) (mantissa exponent : Nat) :
    (pack negative mantissa exponent).neg = pack (!negative) mantissa exponent := by
  rw [pack, pack]
  split <;> rfl

theorem neg_ofRatio (negative : Bool) (num den : Nat) :
    (ofRatio negative num den).neg = ofRatio (!negative) num den := by
  rw [ofRatio, ofRatio]
  split <;> exact neg_pack ..

theorem neg_ofDecimal (d : Decimal) :
    (ofDecimal d).neg = ofDecimal { d with negative := !d.negative } := by
  rw [ofDecimal, ofDecimal]
  dsimp only
  split
  · rfl
  · split
    · rfl
    · split
      · rfl
      · exact neg_ofRatio ..

end Binary64

theorem stripped_withSign (d : Decimal) (negative : Bool) :
    ({ d with negative } : Decimal).stripped = { d.stripped with negative } := by
  rw [Decimal.stripped, Decimal.stripped]
  split <;> rfl

/-- The shortest decimals of numbers of opposite signs are of opposite signs. -/
theorem shortestDecimal_not (negative : Bool) (mantissa exponent : Nat) :
    shortestDecimal (!negative) mantissa exponent =
      { shortestDecimal negative mantissa exponent with negative := !negative } := by
  rw [shortestDecimal, shortestDecimal]
  split
  · rfl
  · dsimp only
    exact stripped_withSign ⟨negative, _, _⟩ (!negative)

/-- Numbers of opposite signs are rounded to numbers of opposite signs. -/
theorem Binary64.roundPlaces_neg (places : Int) (x : Binary64) :
    x.neg.roundPlaces places = (x.roundPlaces places).neg := by
  cases x with
  | nan payload => rfl
  | infinite negative => rfl
  | finite negative mantissa exponent canonical =>
    rw [neg, roundPlaces, roundPlaces, shortest?, shortest?, shortestDecimal_not]
    dsimp only
    split
    · rfl
    · rw [neg_ofDecimal, negative_shortestDecimal]

/-! ## The coarsest grid -/

section Grid

variable {mantissa exponent c : Nat} {power : Int}

/-- A grid with a multiple in an interval has one next to the number. -/
theorem isSome_nearestOnGrid?_of_holds
    (h : (roundingInterval mantissa exponent).Holds (c * 10 ^ power)) :
    (nearestOnGrid? (roundingInterval mantissa exponent) (mantissa * 2 ^ exponent)
      Binary64.unitsPerOne power).isSome = true := by
  have hself := Binary64.holds_self mantissa exponent
  rw [Binary64.units_div] at hself
  have hten : (0 : ℚ) < 10 ^ power := zpow_pos (by decide) _
  obtain ⟨below, hle, hlt, hfound⟩ := Binary64.exists_neighbours mantissa exponent power
  rw [hfound]
  rcases Nat.lt_or_ge below c with hc | hc
  · have hstep : ((below + 1 : Nat) * 10 ^ power : ℚ) ≤ c * 10 ^ power :=
      mul_le_mul_of_nonneg_right (Nat.cast_le.mpr hc) (le_of_lt hten)
    exact .inr (RoundingInterval.holds_of_between hself h (le_of_lt hlt) hstep)
  · have hstep : (c * 10 ^ power : ℚ) ≤ below * 10 ^ power :=
      mul_le_mul_of_nonneg_right (Nat.cast_le.mpr hc) (le_of_lt hten)
    exact .inl (RoundingInterval.holds_of_between h hself hstep hle)

theorem le_exponent_stripped (d : Decimal) : d.exponent ≤ d.stripped.exponent := by
  rw [Decimal.stripped]
  split
  · exact le_rfl
  · exact Int.le_add_of_nonneg_right (Int.natCast_nonneg _)

/-- What is found first in a range is found no later than anything else. -/
theorem exists_le_of_findSome?_range {α : Type} {f : Nat → Option α} {n k : Nat} {a : α}
    (h : (List.range n).findSome? f = some a) (hk : k < n) (hfound : (f k).isSome = true) :
    ∃ i ≤ k, f i = some a := by
  obtain ⟨before, i, after, hrange, hi, hnone⟩ := List.findSome?_eq_some_iff.mp h
  refine ⟨i, ?_, hi⟩
  have hmem : k ∈ before ++ i :: after := hrange ▸ List.mem_range.mpr hk
  have hsorted := hrange ▸ @List.pairwise_lt_range n
  rcases List.mem_append.mp hmem with hmem | hmem
  · rw [hnone k hmem] at hfound
    cases hfound
  · rcases List.mem_cons.mp hmem with rfl | hmem
    · exact le_rfl
    · exact le_of_lt ((List.pairwise_cons.mp (List.pairwise_append.mp hsorted).2.1).1 k hmem)

/-- The shortest decimal of a number is a multiple of every power of ten up to the number of which a
multiple lies in the number's interval. -/
theorem le_exponent_shortestDecimal (negative : Bool) (canonical : Canonical mantissa exponent)
    (hpos : 0 < mantissa) (h : (roundingInterval mantissa exponent).Holds (c * 10 ^ power))
    (hle : (10 ^ power : ℚ) ≤ mantissa * Binary64.ulp exponent) :
    power ≤ (shortestDecimal negative mantissa exponent).exponent := by
  have hpoint := lt_of_le_of_lt hle (Binary64.units_div mantissa exponent ▸
    Binary64.lt_zpow_decimalPoint (Nat.mul_pos hpos (Nat.two_pow_pos _)) Binary64.unitsPerOne_pos)
  rw [zpow_lt_zpow_iff_right₀ (by norm_num)] at hpoint
  rw [shortestDecimal, if_neg (Nat.ne_of_gt hpos)]
  dsimp only
  refine le_trans ?_ (le_exponent_stripped _)
  have hlast := Binary64.isSome_nearestOnGrid?_seventeen canonical hpos
  have hgrid := isSome_nearestOnGrid?_of_holds h
  generalize decimalPoint (mantissa * 2 ^ exponent) Binary64.unitsPerOne = point at hpoint hlast ⊢
  -- The grid is one of those that are searched, or finer than all of them.
  obtain ⟨k, hk, hpower, hfound⟩ : ∃ k < 17, power ≤ point - (k + 1 : Nat) ∧
      (nearestOnGrid? (roundingInterval mantissa exponent) (mantissa * 2 ^ exponent)
        Binary64.unitsPerOne (point - (k + 1 : Nat))).isSome = true := by
    rcases Int.lt_or_le power (point - (16 + 1 : Nat)) with hfine | hcoarse
    · exact ⟨16, by decide, le_of_lt hfine, hlast⟩
    · have hsame : point - ((point - 1 - power).toNat + 1 : Nat) = power := by omega
      exact ⟨(point - 1 - power).toNat, by omega, le_of_eq hsame.symm, hsame.symm ▸ hgrid⟩
  generalize hsearch : (List.range 17).findSome? _ = found
  cases found with
  | none =>
    have := List.findSome?_eq_none_iff.mp hsearch k (List.mem_range.mpr hk)
    rw [Option.map_eq_none_iff.mp this] at hfound
    cases hfound
  | some decimal =>
    obtain ⟨i, hi, hdecimal⟩ := exists_le_of_findSome?_range hsearch hk (by simpa using hfound)
    obtain ⟨coefficient, -, rfl⟩ := Option.map_eq_some_iff.mp hdecimal
    dsimp only [Option.getD_some]
    omega

end Grid

/-! ## Rounding again -/

namespace Binary64

section Again

variable {mantissa exponent : Nat} {places : Int}

/-- A number with so few places is left alone. -/
theorem roundPlaces_of_le {negative : Bool} {canonical : Canonical mantissa exponent}
    (h : -places ≤ (shortestDecimal negative mantissa exponent).exponent) :
    (finite negative mantissa exponent canonical).roundPlaces places =
      finite negative mantissa exponent canonical := by
  rw [roundPlaces, shortest?]
  exact if_pos h

/-- A number with more places is cut to a multiple of the last place that is left. -/
theorem roundPlaces_of_not_le {negative : Bool} {canonical : Canonical mantissa exponent}
    (h : ¬ -places ≤ (shortestDecimal negative mantissa exponent).exponent) :
    (finite negative mantissa exponent canonical).roundPlaces places = ofDecimal ⟨negative,
      ⌊(shortestDecimal negative mantissa exponent).magnitude / 10 ^ (-places) + 1 / 2⌋₊,
      -places⟩ := by
  rw [roundPlaces, shortest?]
  dsimp only
  rw [if_neg h, roundHalfAway_powerRatio, negative_shortestDecimal]

theorem roundPlaces_zero (negative : Bool) :
    (zero negative).roundPlaces places = zero negative := by
  rw [zero, roundPlaces, shortest?, shortestDecimal, if_pos rfl]
  dsimp only
  split
  · rfl
  · have hden := powerRatio_pos 0 Nat.one_pos (-places - 0)
    have hnum : (powerRatio 0 1 (-places - 0)).1 = 0 := by
      rw [powerRatio]
      split <;> simp
    have hcoefficient : roundHalfAway (powerRatio 0 1 (-places - 0)).1
        (powerRatio 0 1 (-places - 0)).2 = 0 := by
      rw [hnum, roundHalfAway]
      exact Nat.div_eq_of_lt (by omega)
    rw [hcoefficient, ofDecimal]
    exact if_pos rfl

/-- What lies in an interval is no further from the number than half of the distance to the next. -/
theorem near_of_holds {q : ℚ} (h : (roundingInterval mantissa exponent).Holds q) :
    (mantissa - 1 / 2) * ulp exponent ≤ q ∧ q ≤ (mantissa + 1 / 2) * ulp exponent := by
  have hone : (0 : ℚ) < unitsPerOne := Nat.cast_pos.mpr unitsPerOne_pos
  have hpow := Rounds.two_pow_pos exponent
  have hedge := mul_le_mul_of_nonneg_right (sub_two_le_sub_edge mantissa exponent) (le_of_lt hpow)
  obtain ⟨hlow, hhigh⟩ := le_of_holds h
  rw [ulp, ← mul_div_assoc, ← mul_div_assoc, div_le_iff₀ hone, le_div_iff₀ hone]
  push_cast
  constructor <;> linarith

/-- What lies in an interval is rounded up to whatever else lies there, above the number. -/
theorem floor_eq_one_of_holds {q r : ℚ} (hmantissa : 2 ≤ mantissa)
    (hq : (roundingInterval mantissa exponent).Holds q)
    (hr : (roundingInterval mantissa exponent).Holds r) (hlt : mantissa * ulp exponent < r) :
    ⌊q / r + 1 / 2⌋₊ = 1 := by
  have hulp := ulp_pos exponent
  have htwice := mul_le_mul_of_nonneg_right
    (Nat.cast_le.mpr hmantissa : ((2 : Nat) : ℚ) ≤ mantissa) (le_of_lt hulp)
  push_cast at htwice
  have hq := near_of_holds hq
  have hr := near_of_holds hr
  have hpos : 0 < r := by linarith
  have hnonneg : 0 ≤ q / r := div_nonneg (by linarith) (le_of_lt hpos)
  rw [Nat.floor_eq_iff (by linarith), Nat.cast_one, ← sub_le_iff_le_add, ← lt_sub_iff_add_lt,
    le_div_iff₀ hpos, div_lt_iff₀ hpos]
  constructor <;> linarith

/-- No power of ten lies in the upper half of the interval of the smallest positive number. -/
theorem not_holds_of_ulp_lt {power : Int} (hlarge : ulp 0 < 10 ^ power) :
    ¬ (roundingInterval 1 0).Holds (10 ^ power) := by
  intro h
  have hone : (0 : ℚ) < unitsPerOne := Nat.cast_pos.mpr unitsPerOne_pos
  -- The powers are kept apart from their values, which are too large to write down.
  have hbelow : ∀ k m n : Nat, m < 10 ^ k * n → (10 ^ (-k : Int) * m : ℚ) < n := by
    intro k m n hlt
    rw [zpow_neg, zpow_natCast, inv_mul_lt_iff₀ (by positivity)]
    exact_mod_cast hlt
  have habove : ∀ k m n : Nat, 10 ^ k * m < n → (m : ℚ) < 10 ^ (-k : Int) * n := by
    intro k m n hlt
    rw [zpow_neg, zpow_natCast, lt_inv_mul_iff₀ (by positivity)]
    exact_mod_cast hlt
  rw [holds_iff_units, if_neg (by decide)] at h
  rw [ulp, Nat.pow_zero, Nat.cast_one, div_lt_iff₀ hone] at hlarge
  have hhigh := h.2
  rw [Nat.cast_one, pow_zero, mul_one] at hhigh
  rcases Int.lt_or_le power (-(323 : Nat)) with hpower | hpower
  · have hten : (10 ^ power : ℚ) ≤ 10 ^ (-(324 : Nat) : Int) :=
      zpow_le_zpow_right₀ (by norm_num) (by omega)
    have hunits := hbelow 324 unitsPerOne 1 (by decide +kernel)
    have hmost := mul_le_mul_of_nonneg_right hten (le_of_lt hone)
    rw [Nat.cast_one] at hunits
    linarith
  · have hten : (10 ^ (-(323 : Nat) : Int) : ℚ) ≤ 10 ^ power :=
      zpow_le_zpow_right₀ (by norm_num) hpower
    have hunits := habove 323 3 (unitsPerOne * 2) (by decide +kernel)
    have hmost := mul_le_mul_of_nonneg_right hten (le_of_lt hone)
    generalize (10 ^ (-(323 : Nat) : Int) : ℚ) = least at hunits hmost
    push_cast at hunits
    linarith

/-- A decimal of so many places is read as a number that is left alone. -/
theorem roundPlaces_ofDecimal (negative : Bool) (c : Nat) (places : Int) :
    (ofDecimal ⟨negative, c, -places⟩).roundPlaces places = ofDecimal ⟨negative, c, -places⟩ := by
  have hnearest := nearest_ofDecimal ⟨negative, c, -places⟩
  generalize ofDecimal ⟨negative, c, -places⟩ = y at hnearest ⊢
  cases y with
  | nan payload => rfl
  | infinite sign => rfl
  | finite sign mantissa exponent canonical =>
    rcases Nat.eq_zero_or_pos mantissa with rfl | hpos
    · obtain rfl : exponent = 0 := canonical.2.1.resolve_left (by omega)
      exact roundPlaces_zero sign
    have hholds : (roundingInterval mantissa exponent).Holds (c * 10 ^ (-places)) :=
      hnearest.holds hpos
    by_cases hplace : -places ≤ (shortestDecimal sign mantissa exponent).exponent
    · exact roundPlaces_of_le hplace
    -- The power of ten is larger than the number.
    have hlarge : mantissa * ulp exponent < 10 ^ (-places) := by
      by_contra hle
      exact hplace (le_exponent_shortestDecimal sign canonical hpos hholds (le_of_not_gt hle))
    have hpow : (0 : ℚ) < 10 ^ (-places) := zpow_pos (by decide) _
    have hc : (1 : ℚ) ≤ c := by
      refine Nat.one_le_cast.mpr (Nat.pos_of_ne_zero fun hzero => ?_)
      have := (bounds_of_holds canonical hpos hholds).1
      rw [hzero, Nat.cast_zero, zero_mul, zero_mul] at this
      exact absurd this (by decide)
    have hten : (roundingInterval mantissa exponent).Holds (10 ^ (-places)) := by
      refine RoundingInterval.holds_of_between (holds_self mantissa exponent) hholds ?_ ?_
      · exact units_div mantissa exponent ▸ le_of_lt hlarge
      · exact le_mul_of_one_le_left (le_of_lt hpow) hc
    have hmantissa : 2 ≤ mantissa := by
      by_contra hsmall
      obtain rfl : mantissa = 1 := by omega
      obtain rfl : exponent = 0 := canonical.2.1.resolve_left (by decide)
      rw [Nat.cast_one, one_mul] at hlarge
      exact not_holds_of_ulp_lt hlarge hten
    have hshortest := holds_shortestDecimal sign canonical hpos
    rw [roundPlaces_of_not_le hplace, floor_eq_one_of_holds hmantissa hshortest hten hlarge]
    refine ofDecimal_of_holds canonical ?_
    rwa [Decimal.magnitude, Nat.cast_one, one_mul]

/-- Rounding again changes nothing. -/
theorem roundPlaces_roundPlaces (places : Int) (x : Binary64) :
    (x.roundPlaces places).roundPlaces places = x.roundPlaces places := by
  cases x with
  | nan payload => rfl
  | infinite negative => rfl
  | finite negative mantissa exponent canonical =>
    by_cases h : -places ≤ (shortestDecimal negative mantissa exponent).exponent
    · rw [roundPlaces_of_le h, roundPlaces_of_le h]
    · rw [roundPlaces_of_not_le h, roundPlaces_ofDecimal]

end Again

end Binary64

end Intake.Numeric
