import Intake.Leaf
import Intake.Proofs.Calendar.Millis
import Intake.Proofs.Draws

/-!
# Random moments

A random moment is drawn by a number of days around the present one, of which the part of a day is
rounded to microseconds.  It is at most ten years and a day away, so that the calendar has it unless
the present moment is close to one of the ends.

## Main definitions

* `Moment.HasRoom` — a moment that is further from the ends of the calendar.

## Main statements

* `Gen.yields_delta_whole` — the whole part of a number that is drawn around zero.
* `Leaf.yields_randomMoment` — there is a random moment, whatever is drawn.
-/

namespace Intake

open Calendar (Moment)
open Numeric (Binary64 Number)

/-! ## Whole parts and fractions -/

namespace Numeric.Binary64

variable {negative : Bool} {mantissa exponent limit factor : Nat}
  {canonical : Canonical mantissa exponent}

/-- The whole part of a number is below every whole number above it. -/
theorem natAbs_truncate_le (h : ((mantissa * 2 ^ exponent : Nat) / unitsPerOne : ℚ) < limit + 1) :
    (truncate (.finite negative mantissa exponent canonical)).natAbs ≤ limit := by
  have hone : (0 : ℚ) < unitsPerOne := Nat.cast_pos.mpr unitsPerOne_pos
  rw [div_lt_iff₀ hone] at h
  have hlt : mantissa * 2 ^ exponent < (limit + 1) * unitsPerOne := by exact_mod_cast h
  rw [truncate, natAbs_withSign]
  exact Nat.le_of_lt_succ ((Nat.div_lt_iff_lt_mul unitsPerOne_pos).mpr hlt)

/-- So many times the fraction of a number, rounded twice, is no more than that. -/
theorem natAbs_nearestInt_fraction_le (x : Binary64) (hfactor : factor < 2 ^ 52) :
    ((x.fraction.scaleBy false factor 1).nearestInt).natAbs ≤ factor := by
  cases x with
  | nan payload => exact Nat.zero_le _
  | infinite negative => exact Nat.zero_le _
  | finite negative mantissa exponent canonical =>
    have hone : (0 : ℚ) < unitsPerOne := Nat.cast_pos.mpr unitsPerOne_pos
    obtain ⟨m, e, h, hfraction, hrest⟩ := exists_fraction_eq negative canonical
    have hlt : m * 2 ^ e < unitsPerOne := hrest ▸ Nat.mod_lt _ unitsPerOne_pos
    have hproduct : ((m * 2 ^ e * factor : Nat) / (unitsPerOne * 1 : Nat) : ℚ) ≤ factor := by
      rw [Nat.mul_one, div_le_iff₀ hone, Nat.mul_comm _ factor]
      exact_mod_cast Nat.mul_le_mul_left factor (Nat.le_of_lt hlt)
    have hsmall : (factor : ℚ) < 2 ^ 52 := by exact_mod_cast hfactor
    have hnearest := nearest_ofRatio (negative != false) (m * 2 ^ e * factor)
      (Nat.mul_pos unitsPerOne_pos Nat.one_pos)
    obtain ⟨m', e', h', hscaled, herror⟩ :=
      hnearest.exists_finite (by decide) (lt_of_le_of_lt hproduct hsmall)
    rw [hfraction, scaleBy, hscaled, nearestInt, natAbs_withSign]
    have hround := (nearestWhole_roundHalfEven (m' * 2 ^ e') unitsPerOne_pos).below
    have hquarter : (2 ^ 52 / 2 ^ 54 : ℚ) = 1 / 4 := by norm_num
    rw [hquarter, abs_le] at herror
    generalize roundHalfEven (m' * 2 ^ e') unitsPerOne = n at hround ⊢
    have hnext : (n : ℚ) < factor + 1 := by linarith
    exact Nat.le_of_lt_succ (by exact_mod_cast hnext)

end Numeric.Binary64

/-! ## Draws around zero -/

/-- A number that is drawn around zero is finite, and its whole part is within the range. -/
theorem Gen.yields_delta_whole {range : Nat} (hrange : range < 2 ^ 52) :
    (delta (Binary64.ofRatio false range 1)).Yields fun x =>
      x.isFinite = true ∧ x.truncate.natAbs ≤ range := by
  have hone : (0 : ℚ) < Binary64.unitsPerOne := Nat.cast_pos.mpr Binary64.unitsPerOne_pos
  have hexact : (Binary64.ofRatio false range 1).Nearest false (range / 2 ^ 0) := by
    simpa using Binary64.nearest_ofRatio false range Nat.one_pos
  obtain ⟨m, e, h, heq, hvalue⟩ :=
    hexact.exists_finite_eq (Nat.lt_trans hrange (by decide)) (by decide)
  refine yields_next.bind fun draw _ => yields_pure ?_
  have hdraw : (2 * (draw.numerator : Int) - 2 ^ 53).natAbs ≤ 2 ^ 53 := by
    have := draw.lt
    omega
  generalize 2 * (draw.numerator : Int) - 2 ^ 53 = i at hdraw
  rw [heq, Binary64.scaleBy]
  have hnearest := Binary64.nearest_ofRatio (false != decide (i < 0)) (m * 2 ^ e * i.natAbs)
    (Nat.mul_pos Binary64.unitsPerOne_pos (Nat.two_pow_pos 53))
  have hwithin : ((m * 2 ^ e * i.natAbs : Nat) / (Binary64.unitsPerOne * 2 ^ 53 : Nat) : ℚ) ≤
      range := by
    rw [Nat.cast_mul (m * 2 ^ e), Nat.cast_mul _ (2 ^ 53), mul_div_mul_comm, hvalue, pow_zero,
      div_one]
    refine mul_le_of_le_one_right (Nat.cast_nonneg _) ((div_le_one (by norm_num)).mpr ?_)
    exact_mod_cast hdraw
  obtain ⟨m', e', h', hscaled, herror⟩ :=
    hnearest.exists_finite (k := 52) (by decide) (lt_of_le_of_lt hwithin (by exact_mod_cast hrange))
  rw [hscaled]
  refine ⟨rfl, Binary64.natAbs_truncate_le ?_⟩
  rw [abs_le] at herror
  linarith

/-! ## Moments -/

/-- A moment that is more than ten years and a day away from both ends of the calendar. -/
def Calendar.Moment.HasRoom (m : Moment) : Prop :=
  Moment.firstMicro + 3651 * Moment.microsPerDay ≤ m.wall ∧
    m.wall + 3651 * Moment.microsPerDay < Moment.endMicro
deriving Decidable

/-- There is a random moment, whatever is drawn. -/
theorem Leaf.yields_randomMoment {now : Moment} (hnow : now.HasRoom) :
    (randomMoment now).Yields fun _ => True := by
  refine (Gen.yields_delta_whole (by decide : 3650 < 2 ^ 52)).bind fun days hdays => ?_
  have hpart := days.natAbs_nearestInt_fraction_le (by decide : Moment.microsPerDay < 2 ^ 52)
  obtain ⟨hfirst, hend⟩ := hnow
  obtain ⟨m, hm, -⟩ := @Moment.exists_ofWall? (now.wall + days.truncate * Moment.microsPerDay +
    (days.fraction.scaleBy false Moment.microsPerDay 1).nearestInt)
    (by rw [Moment.microsPerDay] at *; omega) (by rw [Moment.microsPerDay] at *; omega)
  dsimp only
  rw [hm]
  exact Gen.yields_pure trivial

end Intake
