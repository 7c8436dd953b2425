import Intake.Proofs.Leaf.Settled
import Intake.Proofs.Value.Facing

/-!
# How strict fixed values are

A rule for fixed values tells truth values from numbers in an input that is one or the other.  In a
container it does not: what it accepts has the shape of what it gives out, with numbers for equal
numbers, but a truth value may stand for the number one or zero, and the number for the truth value.
So the inputs of a rule mirror its results just if there is neither inside of its members.

## Main statements

* `Leaf.parse_mirrors_iff` — the rules whose inputs mirror their results.
-/

namespace Intake.Leaf

variable {setting : Setting} {ctx : Context}

theorem parse_literal_eq_ok_iff {value a w : Value} :
    (Leaf.literal value).parse setting a ctx = .ok w ↔ [value].find? a.same = some w := by
  rw [List.find?_singleton]
  constructor
  · intro h
    obtain ⟨rfl, hsame⟩ := parseLiteral_cases h
    exact if_pos hsame
  · intro h
    split at h
    · rename_i hsame
      cases h
      exact if_pos hsame
    · cases h

theorem parse_values_eq_ok_iff {members : List Value} {nonempty : members ≠ []} {a w : Value} :
    (Leaf.values members nonempty).parse setting a ctx = .ok w ↔
      members.find? a.same = some w := by
  refine ⟨parseMember_eq_ok, fun h => ?_⟩
  rw [Leaf.parse, parseMember, h]

/-- Values are the same if neither or both are truth values and they have one shape with equal
atoms; then a truth value inside of one may face a number inside of the other.  All that is the same
as a value mirrors it just if no truth value can stand for something inside of that value, and so do
the inputs that a rule for one value or for several accepts. -/
theorem parse_mirrors_iff {members : List Value} (nonempty : members ≠ [])
    (hkeyed : ∀ m ∈ members, m.Keyed) (setting : Setting) (ctx : Context) :
    (∀ a b : Value, a.Keyed →
      (a.same b = true ↔ a.isBool = b.isBool ∧ a.kind ≠ .nan ∧ a.Matches b)) ∧
    (∀ m ∈ members, (∀ a : Value, a.Keyed → a.same m = true → a.Mirrors m) ↔ m.Unmistakable) ∧
    (∀ m ∈ members, (∀ a w : Value, a.Keyed →
      (Leaf.literal m).parse setting a ctx = .ok w → a.Mirrors w) ↔ m.Unmistakable) ∧
    ((∀ a w : Value, a.Keyed →
      (Leaf.values members nonempty).parse setting a ctx = .ok w → a.Mirrors w) ↔
        ∀ m ∈ members, m.Unmistakable) := by
  have hone : ∀ m ∈ members, (∀ a w : Value, a.Keyed → [m].find? a.same = some w → a.Mirrors w) ↔
      m.Unmistakable := by
    intro m hm
    have hsingle := Value.forall_mirrors_iff (List.forall_mem_singleton.mpr (hkeyed m hm))
    rwa [List.forall_mem_singleton] at hsingle
  refine ⟨fun a b => Value.same_iff_matches, fun m hm => ?_, fun m hm => ?_, ?_⟩
  · rw [← hone m hm]
    simp [List.find?_singleton]
  · simp only [parse_literal_eq_ok_iff]
    exact hone m hm
  · simp only [parse_values_eq_ok_iff]
    exact Value.forall_mirrors_iff hkeyed

/-- A list of atoms has no dictionary in it. -/
theorem keyed_list_of_isAtom {items : List Value} (h : ∀ v ∈ items, v.isAtom = true) :
    (Value.list items).Keyed := by
  intro entries hholds
  cases hholds with
  | item mem holds =>
    have hatom := h _ mem
    rw [← holds.eq_of_isAtom hatom] at hatom
    cases hatom

/-- The second page, as people count. -/
def secondPage : Value :=
  .list [.text "page", .int 2]

theorem parse_mirrors_iff_secondPage :
    (Leaf.values [secondPage] (List.cons_ne_nil _ _)).parse "en" (.list [.text "page", ratio 2 1])
      .root = .ok secondPage ∧ (Value.list [.text "page", ratio 2 1]).Mirrors secondPage := by
  have hatoms : ∀ v ∈ [Value.text "page", .int 2], v.isAtom = true := by decide
  have hunmistakable : secondPage.Unmistakable := by
    rintro u hu ⟨t, ht⟩
    cases hu with
    | self => rfl
    | item mem holds =>
      rw [holds.eq_of_isAtom (hatoms _ mem)] at ht
      rcases List.mem_pair.mp mem with rfl | rfl
      · cases ht
      · cases t <;> simp [Value.looseEq, Value.int] at ht
  have hparse : (Leaf.values [secondPage] (List.cons_ne_nil _ _)).parse "en"
      (.list [.text "page", ratio 2 1]) .root = .ok secondPage :=
    parse_values_eq_ok_iff.mpr (List.find?_singleton ▸ if_pos (by decide +kernel))
  have hkeyed := List.forall_mem_singleton.mpr (keyed_list_of_isAtom hatoms)
  exact ⟨hparse, (parse_mirrors_iff (List.cons_ne_nil _ _) hkeyed "en" .root).2.2.2.mpr
    (List.forall_mem_singleton.mpr hunmistakable) _ _ (keyed_list_of_isAtom (by decide)) hparse⟩

/-- A truth value in a list is taken for a number. -/
theorem not_forall_same_mirrors :
    ¬ ∀ a b : Value, a.Keyed → b.Keyed → a.same b = true → a.Mirrors b := by
  intro h
  have hsame : (Value.list [.int 1]).same (.list [.bool true]) = true := by decide +kernel
  have hmirrors := h _ _ (keyed_list_of_isAtom (by decide)) (keyed_list_of_isAtom (by decide)) hsame
  cases hmirrors with
  | list _ items =>
    have hone : (Value.int 1).Mirrors (.bool true) := items 0 _ _ rfl rfl
    cases hone.isBool_eq
  | atom ha => cases ha

end Intake.Leaf
