import Intake.Schema.Infer
import Mathlib.Data.List.Infix

/-!
# Names and their modifiers

A key of a sample object is a name that ends in no modifier, with modifiers after it in any order
and number.  No way to write a modifier ends in another one, so there is one way to take a key
apart, and taking one modifier after the other off its end is that way.

## Main definitions

* `Modifier.Writes` — the ways to write a modifier where a list is given or not.
* `Strips` — a key is a name with modifiers after it.

## Main statements

* `Modifier.Writes.unique` — a key ends in one modifier at most.
* `peel_eq_iff` — the name and the modifiers that are taken off it.
-/

namespace Intake

/-! ## Single modifiers -/

/-- A way to write a modifier at the end of a key.  An enumeration has to be given by a list. -/
def Modifier.Writes (listed : Bool) (m : Modifier) (suffix : List Char) : Prop :=
  (m = .enums → listed = true) ∧ ∃ s ∈ m.suffixes, s.toList = suffix

/-- All modifiers. -/
def Modifier.all : List Modifier :=
  [.enums, .nullable, .optional]

theorem Modifier.mem_all (m : Modifier) : m ∈ Modifier.all := by
  cases m <;> decide

/-- No way to write a modifier ends in another one. -/
theorem Modifier.suffixes_apart : ∀ m ∈ Modifier.all, ∀ m' ∈ Modifier.all, ∀ s ∈ m.suffixes,
    ∀ s' ∈ m'.suffixes, s.toList.isSuffixOf s'.toList = true → m = m' ∧ s = s' := by
  decide

theorem Modifier.suffixes_ne_empty : ∀ m ∈ Modifier.all, ∀ s ∈ m.suffixes, s.toList ≠ [] := by
  decide

namespace Modifier.Writes

variable {listed listed' : Bool} {m m' : Modifier} {suffix suffix' name : List Char}

theorem ne_nil (h : m.Writes listed suffix) : suffix ≠ [] := by
  obtain ⟨-, s, hs, rfl⟩ := h
  exact suffixes_ne_empty m m.mem_all s hs

theorem eq_of_isSuffix (h : m.Writes listed suffix) (h' : m'.Writes listed' suffix')
    (hsuffix : suffix <:+ suffix') : m = m' ∧ suffix = suffix' := by
  obtain ⟨-, s, hs, rfl⟩ := h
  obtain ⟨-, s', hs', rfl⟩ := h'
  obtain ⟨rfl, rfl⟩ := suffixes_apart m m.mem_all m' m'.mem_all s hs s' hs'
    (List.isSuffixOf_iff_suffix.mpr hsuffix)
  exact ⟨rfl, rfl⟩

/-- A key ends in one modifier at most. -/
theorem unique (h : m.Writes listed suffix) (h' : m'.Writes listed' suffix')
    (hname : suffix <:+ name) (hname' : suffix' <:+ name) : m = m' ∧ suffix = suffix' := by
  rcases List.suffix_or_suffix_of_suffix hname hname' with hsuffix | hsuffix
  · exact eq_of_isSuffix h h' hsuffix
  · obtain ⟨rfl, rfl⟩ := eq_of_isSuffix h' h hsuffix
    exact ⟨rfl, rfl⟩

end Modifier.Writes

/-! ## One modifier off the end -/

section One

variable {listed : Bool} {m : Modifier} {name rest suffix : List Char}

/-- The modifiers that are tried where a list is given or not. -/
def tried (listed : Bool) : List Modifier :=
  if listed then [.enums, .nullable, .optional] else [.nullable, .optional]

theorem mem_tried_iff : m ∈ tried listed ↔ (m = .enums → listed = true) := by
  cases listed <;> cases m <;> decide

theorem suffix?_eq_some {s : String} (h : m.suffix? name = some s) :
    s ∈ m.suffixes ∧ s.toList <:+ name := by
  have hsuffix : s.toList.isSuffixOf name = true :=
    List.find?_some (p := fun suffix : String => suffix.toList.isSuffixOf name) h
  exact ⟨List.mem_of_find?_eq_some h, List.isSuffixOf_iff_suffix.mp hsuffix⟩

theorem exists_writes_of_peelOne? (h : peelOne? listed name = some (m, rest)) :
    ∃ suffix, m.Writes listed suffix ∧ name = rest ++ suffix := by
  obtain ⟨m', hm, h⟩ := List.exists_of_findSome?_eq_some h
  obtain ⟨s, hs, h⟩ := Option.map_eq_some_iff.mp h
  obtain ⟨rfl, rfl⟩ := Prod.mk.inj h
  obtain ⟨hmem, hsuffix⟩ := suffix?_eq_some hs
  refine ⟨s.toList, ⟨mem_tried_iff.mp hm, s, hmem, rfl⟩, ?_⟩
  rw [← String.length_toList]
  exact (List.suffix_iff_eq_append.mp hsuffix).symm

/-- Nothing is taken off a key that ends in no modifier. -/
theorem peelOne?_eq_none_iff : peelOne? listed name = none ↔
    ∀ (m : Modifier) (suffix : List Char), m.Writes listed suffix → ¬ suffix <:+ name := by
  constructor
  · rintro h m _ ⟨hlisted, s, hs, rfl⟩ hsuffix
    have hnone := List.findSome?_eq_none_iff.mp h m (mem_tried_iff.mpr hlisted)
    rw [Option.map_eq_none_iff, Modifier.suffix?, List.find?_eq_none] at hnone
    exact hnone s hs (List.isSuffixOf_iff_suffix.mpr hsuffix)
  · intro h
    rw [Option.eq_none_iff_forall_not_mem]
    rintro ⟨m, rest⟩ hpeel
    obtain ⟨suffix, hwrites, rfl⟩ := exists_writes_of_peelOne? hpeel
    exact h m suffix hwrites (List.suffix_append _ _)

/-- The modifier at the end of a key is taken off. -/
theorem peelOne?_append (h : m.Writes listed suffix) :
    peelOne? listed (rest ++ suffix) = some (m, rest) := by
  cases hpeel : peelOne? listed (rest ++ suffix) with
  | none => exact absurd (List.suffix_append _ _) (peelOne?_eq_none_iff.mp hpeel m suffix h)
  | some found =>
    obtain ⟨m', rest'⟩ := found
    obtain ⟨suffix', h', heq⟩ := exists_writes_of_peelOne? hpeel
    have hsuffix' : suffix' <:+ rest ++ suffix := heq.symm ▸ List.suffix_append rest' suffix'
    obtain ⟨rfl, rfl⟩ := h.unique h' (List.suffix_append rest suffix) hsuffix'
    rw [List.append_cancel_right heq]

end One

/-! ## All modifiers off the end -/

/-- A key is a name that ends in no modifier, with modifiers after it, which say `ms`. -/
inductive Strips (listed : Bool) : List Char → List Char → Modifiers → Prop
  | bare {name : List Char}
      (ends : ∀ (m : Modifier) (suffix : List Char), m.Writes listed suffix → ¬ suffix <:+ name) :
      Strips listed name name {}
  | modifier {key name suffix : List Char} {ms : Modifiers} {m : Modifier}
      (strips : Strips listed key name ms) (writes : m.Writes listed suffix) :
      Strips listed (key ++ suffix) name (ms.with m)

/-- What two lists of modifiers say together. -/
def Modifiers.join (ms ns : Modifiers) : Modifiers where
  enums := ms.enums || ns.enums
  nullable := ms.nullable || ns.nullable
  optional := ms.optional || ns.optional

@[simp] theorem Modifiers.empty_join (ms : Modifiers) : ({} : Modifiers).join ms = ms := by
  simp [join]

@[simp] theorem Modifiers.join_empty (ms : Modifiers) : ms.join {} = ms := by
  simp [join]

theorem Modifiers.with_join (ms ns : Modifiers) (m : Modifier) :
    (ms.with m).join ns = ms.join (ns.with m) := by
  cases m <;> simp [join, Modifiers.with]

section Strip

variable {listed : Bool} {key name : List Char} {ms : Modifiers}

/-- With fuel for all of a key, all modifiers are taken off it. -/
theorem peelFrom_of_strips (h : Strips listed key name ms) {fuel : Nat}
    (hfuel : key.length ≤ fuel) (found : Modifiers) :
    peelFrom listed fuel key found = (name, found.join ms) := by
  induction h generalizing fuel found with
  | bare ends =>
    cases fuel with
    | zero => simp [peelFrom]
    | succ fuel => simp [peelFrom, peelOne?_eq_none_iff.mpr ends]
  | @modifier key name suffix ms m _ writes ih =>
    have hpos := List.length_pos_iff.mpr writes.ne_nil
    rw [List.length_append] at hfuel
    obtain ⟨fuel, rfl⟩ : ∃ n, fuel = n + 1 := ⟨fuel - 1, by omega⟩
    rw [peelFrom, peelOne?_append writes]
    dsimp only
    rw [ih (by omega), Modifiers.with_join]

/-- Every key is a name with modifiers after it. -/
theorem exists_strips (listed : Bool) (key : List Char) :
    ∃ name ms, Strips listed key name ms := by
  induction hlength : key.length using Nat.strong_induction_on generalizing key with
  | _ length ih =>
    cases hpeel : peelOne? listed key with
    | none => exact ⟨key, {}, .bare (peelOne?_eq_none_iff.mp hpeel)⟩
    | some found =>
      obtain ⟨m, rest⟩ := found
      obtain ⟨suffix, hwrites, rfl⟩ := exists_writes_of_peelOne? hpeel
      have hpos := List.length_pos_iff.mpr hwrites.ne_nil
      rw [List.length_append] at hlength
      obtain ⟨name, ms, hstrips⟩ := ih rest.length (by omega) rest rfl
      exact ⟨name, ms.with m, .modifier hstrips hwrites⟩

/-- What is taken off a key are its modifiers, and what is left is its name. -/
theorem peel_eq_iff : peel listed key = (name, ms) ↔ Strips listed key name ms := by
  have hpeel : ∀ {name ms}, Strips listed key name ms → peel listed key = (name, ms) := by
    intro name ms h
    rw [peel, peelFrom_of_strips h (Nat.le_refl _), Modifiers.empty_join]
  refine ⟨fun h => ?_, hpeel⟩
  obtain ⟨name', ms', hstrips⟩ := exists_strips listed key
  obtain ⟨rfl, rfl⟩ := Prod.mk.inj ((hpeel hstrips).symm.trans h)
  exact hstrips

end Strip

end Intake
