import Intake.Proofs.Numeric.Nearest
import Intake.Proofs.Text.Digits

/-!
# The shortest decimal reads back

The search for the shortest decimal of a number goes through grids of powers of ten.  What it finds
lies in the interval of the number, and it finds something: on the grid of seventeen digits the
steps are smaller than the distance between the numbers, so one of the two neighbours of the number
on the grid is rounded to it.

## Main definitions

* `Binary64.ulp` — how far apart the numbers with an exponent are.

## Main statements

* `RoundingInterval.contains_iff` — membership as it is decided is membership on the rational line.
* `Binary64.isSome_nearestOnGrid?` — seventeen digits are enough.
* `holds_shortestDecimal` — the shortest decimal of a number lies in its interval.
-/

namespace Intake.Numeric

open Text (digits digitsValue digitsValue_digits digitsValue_append digitsValue_replicate_zero)

/-! ## Membership as it is decided -/

/-- Whether a multiple of a power of ten lies in an interval is decided without fractions. -/
theorem RoundingInterval.contains_iff {interval : RoundingInterval} (hden : 0 < interval.den)
    {n : Nat} {power : Int} :
    interval.contains n power = true ↔ interval.Holds (n * 10 ^ power) := by
  rw [Holds, contains]
  cases interval.closed <;>
    simp only [Bool.false_eq_true, if_true, if_false, Bool.and_eq_true, decide_eq_true_eq,
      powerRatio_le_iff hden, le_powerRatio_iff hden, powerRatio_lt_iff hden,
      lt_powerRatio_iff hden]

/-- What is found on a grid lies in the interval. -/
theorem contains_of_nearestOnGrid? {interval : RoundingInterval} {num den n : Nat} {power : Int}
    (h : nearestOnGrid? interval num den power = some n) : interval.contains n power = true := by
  rw [nearestOnGrid?] at h
  split at h
  · rename_i hbelow habove
    cases h
    rcases roundHalfEven_cases (powerRatio num den power).1 (powerRatio num den power).2 with h | h
    · rwa [h]
    · rwa [h]
  · cases h
    assumption
  · cases h
    assumption
  · cases h

/-! ## Seventeen digits are enough -/

/-- The first digit of a quotient stands where its decimal point says. -/
theorem zpow_decimalPoint_le {num den : Nat} (hnum : 0 < num) (hden : 0 < den) :
    (10 ^ (decimalPoint num den - 1) : ℚ) ≤ num / den := by
  have hden' : (0 : ℚ) < den := Nat.cast_pos.mpr hden
  rw [le_div_iff₀ hden', decimalPoint]
  split
  · rename_i hle
    obtain ⟨k, hk⟩ := Nat.exists_eq_add_one.mpr (@Nat.length_toDigits_pos 10 (num / den))
    have hpow : 10 ^ k ≤ num / den := by
      by_cases hzero : k = 0
      · rw [hzero]
        exact Nat.div_pos hle hden
      · by_contra hlt
        have := (Nat.length_toDigits_le_iff (by decide) (by omega)).mpr (Nat.lt_of_not_le hlt)
        omega
    have hmul := (Nat.le_div_iff_mul_le hden).mp hpow
    rw [digits, hk, Nat.cast_add, Nat.cast_one, add_sub_cancel_right, zpow_natCast]
    exact_mod_cast hmul
  · generalize hk : (digits ((den - 1) / num)).length = k
    have hpow : (den - 1) / num < 10 ^ k := by
      rw [← hk]
      exact (Nat.length_toDigits_le_iff (by decide) Nat.length_toDigits_pos).mp (Nat.le_refl _)
    have hmul := (Nat.div_lt_iff_lt_mul hnum).mp hpow
    have hexponent : 1 - (k : Int) - 1 = -(k : Int) := by omega
    rw [hexponent, zpow_neg, zpow_natCast, inv_mul_le_iff₀ (by positivity)]
    exact_mod_cast (by omega : den ≤ 10 ^ k * num)

namespace Binary64

/-- How far apart the numbers with an exponent are. -/
def ulp (exponent : Nat) : ℚ :=
  (2 ^ exponent : Nat) / unitsPerOne

theorem ulp_pos (exponent : Nat) : 0 < ulp exponent :=
  div_pos (Nat.cast_pos.mpr (Nat.two_pow_pos _)) (Nat.cast_pos.mpr unitsPerOne_pos)

theorem ulp_mul_unitsPerOne (exponent : Nat) : ulp exponent * unitsPerOne = 2 ^ exponent := by
  rw [ulp, div_mul_cancel₀ _ (Nat.cast_ne_zero.mpr (Nat.ne_of_gt unitsPerOne_pos)), Nat.cast_pow]
  rfl

/-- What is closer to a number than the edge of its interval lies in the interval. -/
theorem holds_of_near {mantissa exponent : Nat} {q : ℚ} (hpos : 0 < mantissa)
    (hlow : mantissa * ulp exponent - q < edge mantissa exponent / 4 * ulp exponent)
    (hhigh : q - mantissa * ulp exponent < edge mantissa exponent / 4 * ulp exponent) :
    (roundingInterval mantissa exponent).Holds q := by
  have hone : (0 : ℚ) < unitsPerOne := Nat.cast_pos.mpr unitsPerOne_pos
  have hedge : edge mantissa exponent ≤ 2 := by
    rw [edge]
    split <;> decide
  have hedge' : (edge mantissa exponent : ℚ) * 2 ^ exponent ≤ 2 * 2 ^ exponent :=
    mul_le_mul_of_nonneg_right (by exact_mod_cast hedge) (le_of_lt (Rounds.two_pow_pos exponent))
  -- Both distances are counted in units.
  have hlow := mul_lt_mul_of_pos_right hlow hone
  have hhigh := mul_lt_mul_of_pos_right hhigh hone
  rw [sub_mul, mul_assoc, mul_assoc, ulp_mul_unitsPerOne] at hlow hhigh
  rw [holds_iff_units, Nat.cast_sub (by omega)]
  push_cast
  split <;> constructor <;> linarith

theorem units_div (mantissa exponent : Nat) :
    ((mantissa * 2 ^ exponent : Nat) / unitsPerOne : ℚ) = mantissa * ulp exponent := by
  rw [ulp, Nat.cast_mul, mul_div_assoc]

/-- A number lies between two neighbours on a grid, and a multiple is found if one of them lies in
the number's interval. -/
theorem exists_neighbours (mantissa exponent : Nat) (power : Int) :
    ∃ below : Nat, (below * 10 ^ power : ℚ) ≤ mantissa * ulp exponent ∧
      (mantissa * ulp exponent : ℚ) < (below + 1 : Nat) * 10 ^ power ∧
      ((nearestOnGrid? (roundingInterval mantissa exponent) (mantissa * 2 ^ exponent) unitsPerOne
        power).isSome = true ↔ (roundingInterval mantissa exponent).Holds (below * 10 ^ power) ∨
          (roundingInterval mantissa exponent).Holds ((below + 1 : Nat) * 10 ^ power)) := by
  have hinterval : 0 < (roundingInterval mantissa exponent).den :=
    Nat.mul_pos (by decide) unitsPerOne_pos
  have hratio := powerRatio_pos (mantissa * 2 ^ exponent) unitsPerOne_pos power
  refine ⟨(powerRatio (mantissa * 2 ^ exponent) unitsPerOne power).1 /
    (powerRatio (mantissa * 2 ^ exponent) unitsPerOne power).2, ?_, ?_, ?_⟩
  · rw [← units_div, ← le_powerRatio_iff unitsPerOne_pos]
    exact Nat.div_mul_le_self _ _
  · rw [← units_div, ← powerRatio_lt_iff unitsPerOne_pos]
    exact (Nat.div_lt_iff_lt_mul hratio).mp (Nat.lt_succ_self _)
  · rw [← RoundingInterval.contains_iff hinterval, ← RoundingInterval.contains_iff hinterval,
      nearestOnGrid?, ← Bool.or_eq_true, Bool.eq_iff_iff.symm]
    cases (roundingInterval mantissa exponent).contains _ power <;>
      cases (roundingInterval mantissa exponent).contains (_ + 1) power <;> rfl

/-- A grid whose steps are closer together than the numbers has a multiple in every interval. -/
theorem isSome_nearestOnGrid? {mantissa exponent : Nat} {power : Int}
    (canonical : Canonical mantissa exponent) (hpos : 0 < mantissa)
    (hgrid : 10 ^ 16 * 10 ^ power ≤ mantissa * ulp exponent) :
    (nearestOnGrid? (roundingInterval mantissa exponent) (mantissa * 2 ^ exponent) unitsPerOne
      power).isSome = true := by
  have hedge : 2 * mantissa < 10 ^ 16 * edge mantissa exponent := by
    have := canonical.1
    rw [edge]
    split <;> omega
  have hedgePos : 0 < (edge mantissa exponent / 4 * ulp exponent : ℚ) :=
    mul_pos (div_pos (Nat.cast_pos.mpr (by omega)) (by decide)) (ulp_pos exponent)
  obtain ⟨below, hle, hlt, hfound⟩ := exists_neighbours mantissa exponent power
  rw [hfound]
  -- One of the two neighbours is no further from the number than half a step.
  by_contra hnone
  obtain ⟨hbelowOut, haboveOut⟩ := not_or.mp hnone
  have hfarBelow : (edge mantissa exponent / 4 * ulp exponent : ℚ) ≤
      mantissa * ulp exponent - below * 10 ^ power := by
    by_contra hnear
    exact hbelowOut (holds_of_near hpos (lt_of_not_ge hnear) (by linarith))
  have hfarAbove : (edge mantissa exponent / 4 * ulp exponent : ℚ) ≤
      (below + 1 : Nat) * 10 ^ power - mantissa * ulp exponent := by
    by_contra hnear
    exact haboveOut (holds_of_near hpos (by linarith) (lt_of_not_ge hnear))
  have hcount : (edge mantissa exponent * 10 ^ 16 : ℚ) * ulp exponent ≤
      2 * mantissa * ulp exponent := by
    push_cast at hfarAbove
    linarith
  have := le_of_mul_le_mul_right hcount (ulp_pos exponent)
  have : edge mantissa exponent * 10 ^ 16 ≤ 2 * mantissa := by exact_mod_cast this
  omega

/-- The grid of seventeen digits has a multiple in the interval of every number. -/
theorem isSome_nearestOnGrid?_seventeen {mantissa exponent : Nat}
    (canonical : Canonical mantissa exponent) (hpos : 0 < mantissa) :
    (nearestOnGrid? (roundingInterval mantissa exponent) (mantissa * 2 ^ exponent) unitsPerOne
      (decimalPoint (mantissa * 2 ^ exponent) unitsPerOne - (16 + 1 : Nat))).isSome = true := by
  refine isSome_nearestOnGrid? canonical hpos ?_
  have hfirst := zpow_decimalPoint_le (Nat.mul_pos hpos (Nat.two_pow_pos exponent)) unitsPerOne_pos
  rw [units_div] at hfirst
  generalize decimalPoint (mantissa * 2 ^ exponent) unitsPerOne = point at hfirst ⊢
  have hsum : ((16 : Nat) : Int) + (point - (16 + 1 : Nat)) = point - 1 := by
    push_cast
    ring
  rwa [← zpow_natCast, ← zpow_add₀ (by decide), hsum]

end Binary64

/-! ## Zeros at the end -/

/-- A number is a multiple of the power of ten for the zeros at its end. -/
theorem pow_dvd_of_zeros (n : Nat) :
    10 ^ ((digits n).reverse.takeWhile (· = '0')).length ∣ n := by
  generalize hzeros : (digits n).reverse.takeWhile (· = '0') = zeros
  have hreplicate : zeros = List.replicate zeros.length '0' := by
    refine List.eq_replicate_of_mem fun c hc => ?_
    rw [← hzeros] at hc
    simpa using List.all_eq_true.mp List.all_takeWhile c hc
  have hdigits : digits n =
      ((digits n).reverse.dropWhile (· = '0')).reverse ++ List.replicate zeros.length '0' := by
    rw [← hreplicate, ← List.reverse_inj, List.reverse_append, List.reverse_reverse, hreplicate,
      List.reverse_replicate, ← hreplicate, ← hzeros, List.takeWhile_append_dropWhile]
  rw [← digitsValue_digits n, hdigits, digitsValue_append, digitsValue_replicate_zero,
    List.length_replicate]
  exact Nat.dvd_mul_left _ _

/-- Zeros at the end of the coefficient are taken into the exponent. -/
theorem Decimal.magnitude_stripped (d : Decimal) : d.stripped.magnitude = d.magnitude := by
  rw [stripped]
  split
  · rfl
  · rw [magnitude, magnitude]
    dsimp only
    obtain ⟨kept, hkept⟩ := pow_dvd_of_zeros d.coefficient
    generalize ((digits d.coefficient).reverse.takeWhile (· = '0')).length = zeros at hkept ⊢
    rw [hkept, Nat.mul_div_cancel_left _ (Nat.pow_pos (by decide)), zpow_add₀ (by decide),
      zpow_natCast]
    push_cast
    ring

/-! ## The shortest decimal -/

/-- The shortest decimal of a number lies in the number's interval. -/
theorem holds_shortestDecimal {mantissa exponent : Nat} (negative : Bool)
    (canonical : Canonical mantissa exponent) (hpos : 0 < mantissa) :
    (roundingInterval mantissa exponent).Holds
      (shortestDecimal negative mantissa exponent).magnitude := by
  have hinterval : 0 < (roundingInterval mantissa exponent).den :=
    Nat.mul_pos (by decide) Binary64.unitsPerOne_pos
  rw [shortestDecimal, if_neg (Nat.ne_of_gt hpos)]
  dsimp only
  generalize hfound : (List.range 17).findSome? _ = found
  cases found with
  | none =>
    have hlast := List.findSome?_eq_none_iff.mp hfound 16 (by decide)
    have := Binary64.isSome_nearestOnGrid?_seventeen canonical hpos
    rw [Option.map_eq_none_iff.mp hlast] at this
    cases this
  | some decimal =>
    obtain ⟨n, -, hn⟩ := List.exists_of_findSome?_eq_some hfound
    obtain ⟨coefficient, hcoefficient, rfl⟩ := Option.map_eq_some_iff.mp hn
    rw [Option.getD_some, Decimal.magnitude_stripped]
    exact (RoundingInterval.contains_iff hinterval).mp (contains_of_nearestOnGrid? hcoefficient)

@[simp] theorem negative_shortestDecimal (negative : Bool) (mantissa exponent : Nat) :
    (shortestDecimal negative mantissa exponent).negative = negative := by
  rw [shortestDecimal]
  split
  · rfl
  · simp only [Decimal.stripped]
    split <;> rfl

end Intake.Numeric
