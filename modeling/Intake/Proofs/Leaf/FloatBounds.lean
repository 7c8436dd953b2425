import Intake.Leaf
import Intake.Proofs.Rule.Rounding

/-!
# Bounds of floats

A rule for floats holds its bounds against the number that it has read.  Only then is the number
converted and are its digits cut, and this may carry it over a bound, though no further than it
carries the bound itself.

## Main definitions

* `FloatRule.Gives` — what a rule makes of a number within bounds.
* `NumberRule.Meets` — a result is within bounds.
* `FloatRule.HoldsBounds` — what a rule makes of its bounds is within bounds.
* `FloatRule.TakesBounds` — a rule reads its bounds as themselves.

## Main statements

* `FloatRule.Gives.mono` — larger numbers give larger results.
* `Leaf.float_bounds` — results lie between what the bounds give, and they are within bounds if that
  is.
-/

namespace Intake

open Outcome (bind_eq_ok map_eq_ok ofFault_eq_ok)
open Numeric (Number Binary64)

/-! ## What rules make of numbers -/

/-- A number is within the bounds of a rule, by its exact value. -/
def NumberRule.Meets (rule : NumberRule) (n : Number) : Prop :=
  (∀ bound ∈ rule.min, ∃ m, bound.toNumber = .ok m ∧ m.le n = true) ∧
    ∀ bound ∈ rule.max, ∃ m, bound.toNumber = .ok m ∧ n.le m = true

namespace FloatRule

variable {rule : FloatRule} {m n : Number} {x y : Binary64}

/-- A number is converted to a binary one and its digits are cut. -/
def Gives (rule : FloatRule) (n : Number) (x : Binary64) : Prop :=
  ∃ y, n.toBinary64? = some y ∧ rule.cut y = .ok x

/-- What a rule makes of each of its bounds is on the right side of it. -/
def HoldsBounds (rule : FloatRule) : Prop :=
  (∀ bound ∈ rule.number.min, ∃ m x, bound.toNumber = .ok m ∧ rule.Gives m x ∧
    m.le (.float x) = true) ∧
  ∀ bound ∈ rule.number.max, ∃ m x, bound.toNumber = .ok m ∧ rule.Gives m x ∧
    (Number.float x).le m = true

/-- A rule reads each of its bounds as the number that it is, and makes something of it. -/
def TakesBounds (rule : FloatRule) (locale : String) : Prop :=
  ∀ bound, bound ∈ rule.number.min ∨ bound ∈ rule.number.max → ∃ m x, bound.toNumber = .ok m ∧
    rule.number.parse locale (.number m) .root = .ok m ∧ rule.Gives m x

theorem significant_le (hrule : rule.Sound) {x' y' : Binary64}
    (hx : rule.toPrecision.elim (.ok x) (roundSignificantBy · x) = .ok x')
    (hy : rule.toPrecision.elim (.ok y) (roundSignificantBy · y) = .ok y')
    (h : (Number.float x).le (.float y) = true) : (Number.float x').le (.float y') = true := by
  cases hcount : rule.toPrecision with
  | none =>
    rw [hcount] at hx hy
    cases hx
    cases hy
    exact h
  | some count =>
    obtain ⟨k, rfl⟩ := hrule.toPrecision count hcount
    rw [hcount] at hx hy
    rw [eq_roundSignificant_of_roundSignificantBy hx, eq_roundSignificant_of_roundSignificantBy hy]
    exact Binary64.roundSignificant_le (by omega) h

/-- The digits of larger numbers are cut to larger ones. -/
theorem cut_le (hrule : rule.Sound) {x' y' : Binary64} (hx : rule.cut x = .ok x')
    (hy : rule.cut y = .ok y') (h : (Number.float x).le (.float y) = true) :
    (Number.float x').le (.float y') = true := by
  rw [cut_eq] at hx hy
  obtain ⟨a, ha, hx⟩ := bind_eq_ok.mp hx
  obtain ⟨b, hb, hy⟩ := bind_eq_ok.mp hy
  refine significant_le hrule hx hy ?_
  cases hplaces : rule.toFixed with
  | none =>
    rw [hplaces] at ha hb
    cases ha
    cases hb
    exact h
  | some places =>
    obtain ⟨k, rfl⟩ := hrule.toFixed places hplaces
    rw [hplaces] at ha hb
    rw [eq_roundPlaces_of_roundPlacesBy ha, eq_roundPlaces_of_roundPlacesBy hb]
    exact Binary64.roundPlaces_le k h

/-- Larger numbers give larger results. -/
theorem Gives.mono (hrule : rule.Sound) (hx : rule.Gives m x) (hy : rule.Gives n y)
    (h : m.le n = true) : (Number.float x).le (.float y) = true := by
  obtain ⟨a, ha, hx⟩ := hx
  obtain ⟨b, hb, hy⟩ := hy
  exact cut_le hrule hx hy (Number.le_of_toBinary64? ha hb h)

/-- A rule that cuts no digits holds the bounds that are equal to a binary number. -/
theorem holdsBounds_of_uncut (hplaces : rule.toFixed = none) (hcount : rule.toPrecision = none)
    (hbounds : ∀ bound, bound ∈ rule.number.min ∨ bound ∈ rule.number.max →
      ∃ m x, bound.toNumber = .ok m ∧ m.toBinary64? = some x ∧ m.eq (.float x) = true) :
    rule.HoldsBounds := by
  have hcut : ∀ x, rule.cut x = .ok x := by
    intro x
    rw [cut_eq, hplaces, hcount]
    rfl
  constructor
  · intro bound hbound
    obtain ⟨m, x, hm, hx, heq⟩ := hbounds bound (.inl hbound)
    exact ⟨m, x, hm, ⟨x, hx, hcut x⟩, by rw [Number.le, heq, Bool.or_true]⟩
  · intro bound hbound
    obtain ⟨m, x, hm, hx, heq⟩ := hbounds bound (.inr hbound)
    exact ⟨m, x, hm, ⟨x, hx, hcut x⟩, by rw [Number.le, Number.eq_comm, heq, Bool.or_true]⟩

end FloatRule

/-- Taking the noise away does not leave the numbers. -/
theorem Numeric.Number.isNaN_withoutNoise {n : Number} (h : n.isNaN = false) :
    n.withoutNoise.isNaN = false := by
  rcases n with n | x
  · rfl
  · cases x with
    | nan payload => cases h
    | infinite negative => rfl
    | finite negative mantissa exponent canonical =>
      exact (Binary64.nearest_roundSignificant 15 negative canonical).isNaN

theorem NumberRule.isNaN_of_parse {rule : NumberRule} {active : String} {v : Value} {ctx : Context}
    {n : Number} (h : rule.parse active v ctx = .ok n) : n.isNaN = false := by
  obtain ⟨m, hread, rfl, -⟩ := parse_eq_ok_iff.mp h
  rw [settled]
  split
  · exact Numeric.Number.isNaN_withoutNoise (isNaN_of_read hread)
  · exact isNaN_of_read hread

/-- A number within bounds is taken as it is where there is no noise to take away. -/
theorem NumberRule.parse_number {rule : NumberRule} {active : String} {ctx : Context} {n : Number}
    (hnan : n.isNaN = false) (hsettled : rule.settled n = n) (h : rule.Allows n) :
    rule.parse active (.number n) ctx = .ok n :=
  parse_eq_ok_iff.mpr ⟨n, read_number hnan, hsettled, h⟩

/-! ## Results of floats -/

namespace Leaf

variable {rule : FloatRule} {setting : Setting} {v w : Value} {ctx : Context}

theorem parse_float_eq_ok_iff : (float rule).parse setting v ctx = .ok w ↔
    ∃ n x, rule.number.parse setting.locale v (ctx.overriding (ctx.expected "float")) = .ok n ∧
      rule.Gives n x ∧ w = .number (.float x) := by
  have hparse : (float rule).parse setting v ctx =
      (fun x => .number (.float x)) <$> rule.parse setting.locale v ctx := rfl
  rw [hparse, map_eq_ok]
  unfold FloatRule.parse
  simp only [bind_eq_ok]
  constructor
  · rintro ⟨x, ⟨n, hn, hx⟩, rfl⟩
    refine ⟨n, x, hn, ?_, rfl⟩
    cases hy : n.toBinary64? with
    | none => simp [hy] at hx
    | some y =>
      rw [hy] at hx
      exact ⟨y, hy, ofFault_eq_ok.mp hx⟩
  · rintro ⟨n, x, hn, ⟨y, hy, hcut⟩, rfl⟩
    refine ⟨x, ⟨n, hn, ?_⟩, rfl⟩
    rw [hy]
    exact ofFault_eq_ok.mpr hcut

/-- What a rule gives out lies between what it makes of its bounds. -/
theorem le_of_parse_float (hrule : rule.Sound) {x : Binary64}
    (h : (float rule).parse setting v ctx = .ok (.number (.float x))) :
    (∀ bound ∈ rule.number.min, ∀ m y, bound.toNumber = .ok m → m.isNaN = false → rule.Gives m y →
      (Number.float y).le (.float x) = true) ∧
    ∀ bound ∈ rule.number.max, ∀ m y, bound.toNumber = .ok m → m.isNaN = false → rule.Gives m y →
      (Number.float x).le (.float y) = true := by
  obtain ⟨n, x, hn, hgives, heq⟩ := parse_float_eq_ok_iff.mp h
  cases heq
  have hnan := NumberRule.isNaN_of_parse hn
  obtain ⟨-, -, -, hmin, hmax⟩ := NumberRule.parse_eq_ok_iff.mp hn
  constructor
  · intro bound hbound m y hm hm' hy
    obtain ⟨m, heq, hlt⟩ := hmin bound hbound
    cases hm.symm.trans heq
    exact hy.mono hrule hgives (Number.le_of_not_lt hnan hm' hlt)
  · intro bound hbound m y hm hm' hy
    obtain ⟨m, heq, hlt⟩ := hmax bound hbound
    cases hm.symm.trans heq
    exact hgives.mono hrule hy (Number.le_of_not_lt hm' hnan hlt)

/-- The result of a rule lies between what the rule makes of its bounds.  So it is within the
bounds if that is; and for a rule that takes its bounds, only then. -/
theorem float_bounds (hrule : rule.Sound) (setting : Setting) :
    (∀ v x ctx, (float rule).parse setting v ctx = .ok (.number (.float x)) →
      (∀ bound ∈ rule.number.min, ∀ m y, bound.toNumber = .ok m → m.isNaN = false →
        rule.Gives m y → (Number.float y).le (.float x) = true) ∧
      ∀ bound ∈ rule.number.max, ∀ m y, bound.toNumber = .ok m → m.isNaN = false →
        rule.Gives m y → (Number.float x).le (.float y) = true) ∧
    (rule.HoldsBounds → ∀ v w ctx, (float rule).parse setting v ctx = .ok w →
      ∃ x, w = .number (.float x) ∧ rule.number.Meets (.float x)) ∧
    (rule.TakesBounds setting.locale →
      (∀ v x, (float rule).parse setting v .root = .ok (.number (.float x)) →
        rule.number.Meets (.float x)) → rule.HoldsBounds) := by
  refine ⟨fun v x ctx h => le_of_parse_float hrule h, ?_, ?_⟩
  · intro hbounds v w ctx h
    obtain ⟨-, x, -, -, rfl⟩ := parse_float_eq_ok_iff.mp h
    obtain ⟨hmin, hmax⟩ := le_of_parse_float hrule h
    refine ⟨x, rfl, fun bound hbound => ?_, fun bound hbound => ?_⟩
    · obtain ⟨m, y, hm, hy, hle⟩ := hbounds.1 bound hbound
      have hnan := Number.isNaN_of_le hle
      exact ⟨m, hm, Number.le_trans hle (hmin bound hbound m y hm hnan.1 hy)⟩
    · obtain ⟨m, y, hm, hy, hle⟩ := hbounds.2 bound hbound
      have hnan := Number.isNaN_of_le hle
      exact ⟨m, hm, Number.le_trans (hmax bound hbound m y hm hnan.2 hy) hle⟩
  · intro htakes hmeets
    have hresult : ∀ {m : Number} {x : Binary64},
        rule.number.parse setting.locale (.number m) .root = .ok m → rule.Gives m x →
        rule.number.Meets (.float x) := by
      intro m x hm hx
      have hplain := Context.plain_root.overriding_expected "float"
      refine hmeets (.number m) x (parse_float_eq_ok_iff.mpr ⟨m, x, ?_, hx, rfl⟩)
      have hfree := rule.number.contextFree_parse setting.locale hplain Context.plain_root
      exact ((hfree _).eq_ok_iff m).mpr hm
    constructor
    · intro bound hbound
      obtain ⟨m, x, hm, hparse, hx⟩ := htakes bound (.inl hbound)
      obtain ⟨m', hm', hle⟩ := (hresult hparse hx).1 bound hbound
      cases hm.symm.trans hm'
      exact ⟨m, x, hm, hx, hle⟩
    · intro bound hbound
      obtain ⟨m, x, hm, hparse, hx⟩ := htakes bound (.inr hbound)
      obtain ⟨m', hm', hle⟩ := (hresult hparse hx).2 bound hbound
      cases hm.symm.trans hm'
      exact ⟨m, x, hm, hx, hle⟩

/-- From 3.1 to 4, with one decimal place. -/
def tenthsRule : FloatRule where
  number := { min := some (ratio 31 10), max := some (.int 4) }
  toFixed := some (.int 1)

theorem float_bounds_tenths :
    tenthsRule.TakesBounds "en" ∧
    (float tenthsRule).parse "en" (ratio 314 100) .root = .ok (ratio 31 10) ∧
      ∀ v w, (float tenthsRule).parse "en" v .root = .ok w →
        ∃ x, w = .number (.float x) ∧ tenthsRule.number.Meets (.float x) := by
  have hsound : tenthsRule.Sound := by
    refine ⟨⟨?_, ?_, ?_⟩, ?_, ?_⟩
    · rintro bound ⟨⟩
      exact ⟨_, rfl⟩
    · rintro bound ⟨⟩
      exact ⟨_, rfl⟩
    · rintro locale ⟨⟩
    · rintro places ⟨⟩
      exact ⟨1, rfl⟩
    · rintro count ⟨⟩
  have hmin : tenthsRule.Gives (.float (Binary64.ofRatio false 31 10))
      (Binary64.ofRatio false 31 10) := ⟨_, rfl, by decide +kernel⟩
  have hmax : tenthsRule.Gives (.int 4) (Binary64.ofRatio false 4 1) :=
    ⟨Binary64.ofRatio false 4 1, by decide +kernel, by decide +kernel⟩
  have hholds : tenthsRule.HoldsBounds := by
    constructor
    · rintro bound ⟨⟩
      exact ⟨_, _, rfl, hmin, by decide +kernel⟩
    · rintro bound ⟨⟩
      exact ⟨_, _, rfl, hmax, by decide +kernel⟩
  have hallows : ∀ n : Number, n.lt (.float (Binary64.ofRatio false 31 10)) = false →
      (Number.int 4).lt n = false → tenthsRule.number.Allows n := by
    intro n hlow hhigh
    constructor
    · rintro bound ⟨⟩
      exact ⟨_, rfl, hlow⟩
    · rintro bound ⟨⟩
      exact ⟨_, rfl, hhigh⟩
  have htakes : tenthsRule.TakesBounds "en" := by
    rintro bound (hbound | hbound)
    · cases hbound
      refine ⟨_, _, rfl, NumberRule.parse_number ?_ ?_ (hallows _ ?_ ?_), hmin⟩ <;> decide +kernel
    · cases hbound
      refine ⟨_, _, rfl, NumberRule.parse_number ?_ ?_ (hallows _ ?_ ?_), hmax⟩ <;> decide +kernel
  have hparse : (float tenthsRule).parse "en" (ratio 314 100) .root = .ok (ratio 31 10) := by
    refine parse_float_eq_ok_iff.mpr ⟨.float (Binary64.ofRatio false 314 100), _,
      NumberRule.parse_number ?_ ?_ (hallows _ ?_ ?_), ⟨_, rfl, ?_⟩, rfl⟩ <;> decide +kernel
  exact ⟨htakes, hparse, fun v w h => (float_bounds hsound "en").2.1 hholds v w .root h⟩

/-- At least 3.14, with one decimal place. -/
def belowPiRule : FloatRule where
  number := { min := some (ratio 314 100) }
  toFixed := some (.int 1)

theorem not_forall_float_meets_bounds :
    ¬ ∀ (rule : FloatRule) (v : Value) (x : Binary64), rule.Sound →
      (float rule).parse "en" v .root = .ok (.number (.float x)) →
      rule.number.Meets (.float x) := by
  intro h
  have hsound : belowPiRule.Sound := by
    refine ⟨⟨?_, ?_, ?_⟩, ?_, ?_⟩
    · rintro bound ⟨⟩
      exact ⟨_, rfl⟩
    · rintro bound ⟨⟩
    · rintro locale ⟨⟩
    · rintro places ⟨⟩
      exact ⟨1, rfl⟩
    · rintro count ⟨⟩
  have hallows : belowPiRule.number.Allows (.float (Binary64.ofRatio false 314 100)) := by
    constructor
    · rintro bound ⟨⟩
      exact ⟨_, rfl, by decide +kernel⟩
    · rintro bound ⟨⟩
  have hparse : (float belowPiRule).parse "en" (ratio 314 100) .root = .ok (ratio 31 10) := by
    refine parse_float_eq_ok_iff.mpr ⟨.float (Binary64.ofRatio false 314 100), _,
      NumberRule.parse_number ?_ ?_ hallows, ⟨_, rfl, ?_⟩, rfl⟩ <;> decide +kernel
  obtain ⟨m, hm, hle⟩ := (h belowPiRule _ _ hsound hparse).1 _ rfl
  cases hm
  exact absurd hle (by decide +kernel)

end Leaf

end Intake
