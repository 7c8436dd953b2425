import Intake.Proofs.Faults.Numeric
import Intake.Proofs.Numeric.Finite

/-!
# Roundings by counts

A count that is an integer says how a number is rounded, also where there is nothing to round.  To a
count of decimal places that is not negative every finite number is rounded, and this is a rounding
in every respect: it keeps the order and the sign, and what has been rounded stays.

## Main statements

* `eq_roundPlaces_of_roundPlacesBy`, `eq_roundSignificant_of_roundSignificantBy` — what a count asks
  for is what is done.
* `roundPlacesBy_natCast` — a count of decimal places asks for nothing that cannot be done.
* `Value.roundPlaces_rounds` — finite numbers are rounded to decimal places in their order, with
  their signs, and once and for all.
-/

namespace Intake

open Numeric (Number Binary64)

/-! ## What counts ask for -/

/-- The last digit that is written of a number stands no further to the left than that of its
shortest decimal. -/
theorem Numeric.lastPlace_shortestDecimal_le (negative : Bool) {mantissa exponent : Nat}
    (canonical : Numeric.Canonical mantissa exponent) :
    (Numeric.shortestDecimal negative mantissa exponent).lastPlace ≤
      (Numeric.shortestDecimal negative mantissa exponent).exponent := by
  rcases Nat.eq_zero_or_pos mantissa with rfl | hpos
  · rw [Numeric.shortestDecimal, if_pos rfl, Numeric.Decimal.lastPlace, if_pos rfl]
    exact Int.neg_nonpos_of_nonneg Int.one_nonneg
  · have hholds := Numeric.holds_shortestDecimal negative canonical hpos
    generalize Numeric.shortestDecimal negative mantissa exponent = d at hholds ⊢
    have hcoefficient : d.coefficient ≠ 0 := by
      intro hzero
      have := (Binary64.bounds_of_holds canonical hpos hholds).1
      rw [Numeric.Decimal.magnitude, hzero, Nat.cast_zero, zero_mul, zero_mul] at this
      exact absurd this (by decide)
    rw [Numeric.Decimal.lastPlace, if_neg hcoefficient]
    split
    · exact Int.min_le_left _ _
    · exact le_rfl

/-- A number is rounded to places as the count says, also where there is nothing to round. -/
theorem eq_roundPlaces_of_roundPlacesBy {k : Int} {x y : Binary64}
    (h : roundPlacesBy (.int k) x = .ok y) : y = x.roundPlaces k := by
  have hk : (Value.int k).toNumber = .ok (.int k) := rfl
  cases x with
  | nan payload =>
    cases h
    rfl
  | infinite negative =>
    cases h
    rfl
  | finite negative mantissa exponent canonical =>
    have hplace := Numeric.lastPlace_shortestDecimal_le negative canonical
    rw [roundPlacesBy, Binary64.lastPlace?, Binary64.shortest?] at h
    simp only [Option.map_some, roundingPower?, hk, Outcome.ok_bind] at h
    split at h
    · have hle : -k ≤ (Numeric.shortestDecimal negative mantissa exponent).exponent := by omega
      cases h
      rw [Binary64.roundPlaces, Binary64.shortest?]
      exact (if_pos hle).symm
    · split at h
      · cases h
      · split at h
        · cases h
        · cases h
          rw [neg_neg]

theorem eq_roundSignificant_of_roundSignificantBy {k : Nat} {x y : Binary64}
    (h : roundSignificantBy (.int k) x = .ok y) : y = x.roundSignificant (max 1 k) := by
  have hdisplay : (Value.int k).display = Value.numberLiteral (.int k) := rfl
  rw [roundSignificantBy, hdisplay, Value.numberLiteral, Number.writeLiteral] at h
  by_cases hlong : Numeric.TooLong k
  · rw [Numeric.writeInteger_of_tooLong hlong] at h
    cases h
  · rw [Numeric.writeInteger_of_not_tooLong hlong] at h
    simp only [Outcome.mapError_ok, Outcome.ok_bind, Numeric.toList_writeInt_natCast,
      Numeric.Layout.read_digits] at h
    split at h
    · cases h
    · rename_i hread
      split at hread
      · cases hread
      · split at hread
        · cases hread
        · cases hread
          cases h
          rfl

/-- A count of decimal places asks for nothing that cannot be done. -/
theorem roundPlacesBy_natCast (places : Nat) (x : Binary64) :
    roundPlacesBy (.int places) x = .ok (x.roundPlaces places) := by
  cases h : roundPlacesBy (.int places) x with
  | ok y => rw [eq_roundPlaces_of_roundPlacesBy h]
  | error fault =>
    obtain ⟨lastPlace, -, -, hfar⟩ := roundPlacesBy_eq_error_iff.mp ⟨fault, h⟩
    rw [highestPower] at hfar
    omega

/-! ## Decimal places -/

namespace Value

theorem roundPlaces_float (places : Nat) (x : Binary64) :
    Value.roundPlaces (.number (.float x)) (.int places) =
      .ok (.number (.float (x.roundPlaces places))) := by
  rw [Value.roundPlaces, roundPlacesBy_natCast]
  rfl

/-- Finite numbers are rounded to decimal places in their order, opposite numbers to opposite ones,
and rounding again changes nothing. -/
theorem roundPlaces_rounds (places : Nat) {x y : Binary64} (hx : x.isFinite = true)
    (hy : y.isFinite = true) (hle : (Number.float x).le (.float y) = true) :
    ∃ x' y', x'.isFinite = true ∧ y'.isFinite = true ∧
      Value.roundPlaces (.number (.float x)) (.int places) = .ok (.number (.float x')) ∧
      Value.roundPlaces (.number (.float y)) (.int places) = .ok (.number (.float y')) ∧
      (Number.float x').le (.float y') = true ∧
      Value.roundPlaces (.number (.float x.neg)) (.int places) = .ok (.number (.float x'.neg)) ∧
      Value.roundPlaces (.number (.float x')) (.int places) = .ok (.number (.float x')) := by
  have hplaces : (0 : Int) ≤ places := Int.natCast_nonneg places
  refine ⟨x.roundPlaces places, y.roundPlaces places, Binary64.isFinite_roundPlaces hplaces hx,
    Binary64.isFinite_roundPlaces hplaces hy, roundPlaces_float places x,
    roundPlaces_float places y, Binary64.roundPlaces_le places hle, ?_, ?_⟩
  · rw [roundPlaces_float, Binary64.roundPlaces_neg]
  · rw [roundPlaces_float, Binary64.roundPlaces_roundPlaces]

/-- Halves of the second place, of which neither is a binary number. -/
theorem roundPlaces_halves :
    (Number.float (Binary64.ofRatio false 285 1000)).le
      (.float (Binary64.ofRatio false 1005 1000)) = true ∧
    ∃ x' y', x'.isFinite = true ∧ y'.isFinite = true ∧
      Value.roundPlaces (.number (.float (Binary64.ofRatio false 285 1000))) (.int 2) =
        .ok (.number (.float x')) ∧
      Value.roundPlaces (.number (.float (Binary64.ofRatio false 1005 1000))) (.int 2) =
        .ok (.number (.float y')) ∧
      (Number.float x').le (.float y') = true ∧
      Value.roundPlaces (.number (.float (Binary64.ofRatio false 285 1000).neg)) (.int 2) =
        .ok (.number (.float x'.neg)) ∧
      Value.roundPlaces (.number (.float x')) (.int 2) = .ok (.number (.float x')) := by
  have hle : (Number.float (Binary64.ofRatio false 285 1000)).le
      (.float (Binary64.ofRatio false 1005 1000)) = true := by decide +kernel
  exact ⟨hle, roundPlaces_rounds 2 (by decide +kernel) (by decide +kernel) hle⟩

end Value

end Intake
