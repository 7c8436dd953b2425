import Intake.Proofs.Leaf.Settled
import Intake.Proofs.Numeric.Significant

/-!
# Leaves that take in their samples

Rules that ask for nothing but a kind accept every value of that kind.  A whole binary number is
accepted as an integer even though it is rounded first, as long as it has no more digits than the
rounding keeps.  An enumeration accepts each of its members but not-a-number.

## Main statements

* `Leaf.parse_int_whole`, `Leaf.parse_number`, `Leaf.parse_float` — numbers.
* `Leaf.parse_date`, `Leaf.exists_parse_values` — dates, and members of an enumeration.
-/

namespace Intake

open Numeric (Number Binary64)

namespace Leaf

variable {setting : Setting} {locale : String} {ctx : Context}

theorem parse_boolean (v : Value) :
    (Leaf.boolean none).parse setting v ctx = .ok (.bool v.truth) := rfl

theorem parse_string (s : String) :
    (Leaf.string {}).parse setting (.text s) ctx = .ok (.text (Text.trim s)) := rfl

theorem parse_int (n : Int) :
    (Leaf.int {}).parse setting (.number (.int n)) ctx = .ok (.int n) := rfl

/-- Without bounds every number is accepted, rounded to what is no noise. -/
theorem numberRule_parse {n : Number} (hn : n.isNaN = false) :
    NumberRule.parse {} locale (.number n) ctx = .ok n.withoutNoise := by
  have hallows : NumberRule.Allows {} n.withoutNoise := by
    simp [NumberRule.Allows]
  exact NumberRule.parse_eq_ok_iff.mpr ⟨n, NumberRule.read_number hn, rfl, hallows⟩

/-- Without bounds every text that writes a number is accepted like the number. -/
theorem numberRule_parse_text {s : String} {n : Number}
    (h : Numeric.readNumber s = .ok (some n)) :
    NumberRule.parse {} locale (.text s) ctx = .ok n.withoutNoise := by
  have hallows : NumberRule.Allows {} n.withoutNoise := by
    simp [NumberRule.Allows]
  exact NumberRule.parse_eq_ok_iff.mpr ⟨n, NumberRule.read_text rfl h, rfl, hallows⟩

/-- An input that is accepted as a whole binary number is accepted as an integer. -/
theorem parse_int_of_float {v : Value} {x : Binary64} {k : Int} (hx : x.toInt? = some k)
    (hv : ∀ ctx, NumberRule.parse {} setting.locale v ctx = .ok (.float x)) :
    (Leaf.int {}).parse setting v ctx = .ok (.int k) :=
  Outcome.map_eq_ok.mpr
    ⟨k, NumberRule.parseInt_eq_ok_iff.mpr ⟨_, hv _, .inr ⟨_, rfl, hx⟩⟩, rfl⟩

/-- A whole binary number that has fifteen digits at most is an integer. -/
theorem parse_int_whole {x : Binary64} {n : Int} (hx : x.Below (10 ^ 15))
    (hn : x.toInt? = some n) :
    (Leaf.int {}).parse setting (.number (.float x)) ctx = .ok (.int n) := by
  have hrounded := Binary64.toInt?_roundSignificant hn (hx.natAbs_lt hn)
  exact parse_int_of_float hrounded fun _ => numberRule_parse hx.isNaN

theorem parse_number {x : Binary64} (hx : (Number.float x).isNaN = false) :
    (Leaf.number {}).parse setting (.number (.float x)) ctx =
      .ok (.number (.float (x.roundSignificant 15))) :=
  Outcome.map_eq_ok.mpr ⟨_, numberRule_parse hx, rfl⟩

theorem parse_float {x : Binary64} (hx : (Number.float x).isNaN = false) :
    (Leaf.float {}).parse setting (.number (.float x)) ctx =
      .ok (.number (.float (x.roundSignificant 15))) := by
  simp only [Leaf.parse, FloatRule.parse, numberRule_parse hx, Outcome.ok_bind,
    Number.withoutNoise, Number.toBinary64?]
  rfl

/-- Without bounds every value that stands for a moment is a date. -/
theorem parse_date {v : Value} {m : Calendar.Moment} (hctx : ctx.Plain)
    (h : toMoment? setting.zone v = some m) :
    (Leaf.date {}).parse setting v ctx = .ok (.moment m) := by
  have hparse : DateRule.parse setting.zone {} v ctx = .ok m := by
    rw [DateRule.parse, readDate_of_toMoment? hctx h, Outcome.ok_bind, checkRange_unbounded hctx]
    rfl
  rw [Leaf.parse, hparse]
  rfl

/-- An enumeration accepts its members. -/
theorem exists_parse_values {members : List Value} {nonempty : members ≠ []} {v : Value}
    (hv : v ∈ members) (hnan : v.kind ≠ .nan) :
    ∃ w, (Leaf.values members nonempty).parse setting v ctx = .ok w := by
  obtain ⟨w, hw⟩ : ∃ w, members.find? v.same = some w := by
    rw [← Option.isSome_iff_exists, List.find?_isSome]
    exact ⟨v, hv, Value.same_self hnan⟩
  exact ⟨w, by rw [Leaf.parse, parseMember, hw]⟩

end Leaf

end Intake
