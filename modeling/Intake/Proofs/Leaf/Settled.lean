import Intake.Leaf
import Intake.Schema.Parse
import Intake.Proofs.Value.Equality
import Intake.Proofs.Rule.Numeric
import Intake.Proofs.Rule.Temporal

/-!
# Leaves that take in what they give out

Every rule for single values but three kinds brings an input into a form that it leaves alone: a
checkbox gives out a truth value and takes in none, and roundings of binary numbers may be felt
twice.

## Main definitions

* `Leaf.Settles` — the rules that leave their results alone.

## Main statements

* `Leaf.parse_settles` — they do.
* `Leaf.eq_of_isAbsent` — what comes out absent has come in so.
-/

namespace Intake

open Outcome (map_eq_ok)

/-! ## Fixed values -/

theorem parseLiteral_cases {value v w : Value} {ctx : Context}
    (h : parseLiteral value v ctx = .ok w) : w = value ∧ v.same value = true := by
  rw [parseLiteral] at h
  split at h
  · cases h
    exact ⟨rfl, ‹_›⟩
  · obtain ⟨type, -, h⟩ := Outcome.bind_eq_ok.mp h
    simp at h

theorem parseLiteral_settles {value v w : Value} {ctx : Context}
    (h : parseLiteral value v ctx = .ok w) : parseLiteral value w ctx = .ok w := by
  obtain ⟨rfl, hsame⟩ := parseLiteral_cases h
  exact if_pos (Value.same_self_of_same hsame)

theorem parseMember_eq_ok {members : List Value} {v w : Value} {ctx : Context}
    (h : parseMember members v ctx = .ok w) : members.find? v.same = some w := by
  rw [parseMember] at h
  split at h
  · cases h
    assumption
  · obtain ⟨type, -, h⟩ := Outcome.bind_eq_ok.mp h
    obtain ⟨got, -, h⟩ := Outcome.bind_eq_ok.mp h
    simp at h

/-- The first member that an input is the same as is the first that it is the same as itself: a
member before it would be the same as the input too. -/
theorem find?_same_settles {members : List Value} {v w : Value}
    (h : members.find? v.same = some w) : members.find? w.same = some w := by
  rw [List.find?_eq_some_iff_append] at h ⊢
  obtain ⟨hsame, before, after, rfl, hbefore⟩ := h
  refine ⟨Value.same_self_of_same hsame, before, after, rfl, fun a ha => ?_⟩
  have := hbefore a ha
  simp only [Bool.not_eq_true', Bool.eq_false_iff] at this ⊢
  exact fun hwa => this (Value.same_trans hsame hwa)

theorem parseMember_settles {members : List Value} {v w : Value} {ctx : Context}
    (h : parseMember members v ctx = .ok w) : parseMember members w ctx = .ok w := by
  simp [parseMember, find?_same_settles (parseMember_eq_ok h)]

/-! ## Truth values -/

theorem parseBoolean_settles {asked : Option Bool} {v : Value} {ctx : Context} {b : Bool}
    (h : parseBoolean asked v ctx = .ok b) : parseBoolean asked (.bool b) ctx = .ok b := by
  cases asked with
  | none => rfl
  | some c =>
    simp only [parseBoolean] at h
    split at h
    · cases h
      simp [parseBoolean, Value.truth]
    · simp at h

/-! ## Leaves -/

namespace Leaf

variable {leaf : Leaf} {setting : Setting} {v w : Value} {ctx : Context}

/-- The rules whose results are left alone by the same rule. -/
def Settles : Leaf → Prop
  | .number rule => rule.roundError.isTruthy = false
  | .float _ | .checkbox => False
  | _ => True

/-- What a leaf gives out, it takes in unchanged. -/
theorem parse_settles (hleaf : leaf.Settles) (hctx : ctx.Plain)
    (h : leaf.parse setting v ctx = .ok w) : leaf.parse setting w ctx = .ok w := by
  cases leaf with
  | string rule =>
    obtain ⟨s, hs, rfl⟩ := map_eq_ok.mp h
    exact map_eq_ok.mpr ⟨s, TextRule.parse_settles hs, rfl⟩
  | url rule =>
    obtain ⟨s, hs, rfl⟩ := map_eq_ok.mp h
    exact map_eq_ok.mpr ⟨s, UrlRule.parse_settles hs, rfl⟩
  | email rule =>
    obtain ⟨s, hs, rfl⟩ := map_eq_ok.mp h
    exact map_eq_ok.mpr ⟨s, EmailRule.parse_settles hs, rfl⟩
  | color =>
    obtain ⟨s, hs, rfl⟩ := map_eq_ok.mp h
    exact map_eq_ok.mpr ⟨s, parseColor_settles hs, rfl⟩
  | number rule =>
    obtain ⟨n, hn, rfl⟩ := map_eq_ok.mp h
    exact map_eq_ok.mpr ⟨n, NumberRule.parse_settles hleaf hn, rfl⟩
  | float rule => exact hleaf.elim
  | int rule =>
    obtain ⟨n, hn, rfl⟩ := map_eq_ok.mp h
    exact map_eq_ok.mpr ⟨n, NumberRule.parseInt_settles hn, rfl⟩
  | id =>
    obtain ⟨n, hn, rfl⟩ := map_eq_ok.mp h
    exact map_eq_ok.mpr ⟨n, NumberRule.parseInt_settles hn, rfl⟩
  | boolean asked =>
    obtain ⟨b, hb, rfl⟩ := map_eq_ok.mp h
    exact map_eq_ok.mpr ⟨b, parseBoolean_settles hb, rfl⟩
  | checkbox => exact hleaf.elim
  | literal value => exact parseLiteral_settles h
  | values members nonempty => exact parseMember_settles h
  | date rule =>
    obtain ⟨m, hm, rfl⟩ := map_eq_ok.mp h
    exact map_eq_ok.mpr ⟨m, DateRule.parse_settles hctx hm, rfl⟩
  | dateString rule =>
    obtain ⟨s, hs, rfl⟩ := map_eq_ok.mp h
    exact map_eq_ok.mpr ⟨s, SpanRule.parseDate_settles hctx hs, rfl⟩
  | timeString rule precision =>
    obtain ⟨s, hs, rfl⟩ := map_eq_ok.mp h
    exact map_eq_ok.mpr ⟨s, SpanRule.parseTime_settles hctx hs, rfl⟩
  | timestamp rule precision =>
    obtain ⟨s, hs, rfl⟩ := map_eq_ok.mp h
    exact map_eq_ok.mpr ⟨s, SpanRule.parseStamp_settles hctx hs, rfl⟩

/-- An input that is the same as an absent value is that value. -/
theorem eq_of_same_of_isAbsent (h : v.same w = true) (hw : w.isAbsent = true) : v = w := by
  cases w <;> simp [Value.isAbsent] at hw <;> cases v <;> simp [Value.same, Value.looseEq] at h <;>
    rfl

/-- An absent result is that of the same absent input. -/
theorem eq_of_isAbsent (h : leaf.parse setting v ctx = .ok w) (hw : w.isAbsent = true) :
    v = w := by
  cases leaf with
  | literal value =>
    obtain ⟨rfl, hsame⟩ := parseLiteral_cases h
    exact eq_of_same_of_isAbsent hsame hw
  | values members nonempty =>
    exact eq_of_same_of_isAbsent (List.find?_some (parseMember_eq_ok h)) hw
  | _ =>
    obtain ⟨a, -, rfl⟩ := map_eq_ok.mp h
    cases hw

end Leaf

end Intake
