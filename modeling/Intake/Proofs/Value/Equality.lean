import Intake.Value.Equality
import Intake.Proofs.Numeric.Place

/-!
# Equality of values is an equivalence where it has to be

The loose equality is transitive, through containers of any depth, and every value is the same key
as itself.  So the strict equality, by which an input is held against the values that are expected,
can be passed on: what an input is the same as stands for itself.

## Main statements

* `Value.induction` — induction on a value, with what it holds.
* `Value.looseEq_trans`, `Value.sameKey_trans`, `Value.same_trans` — transitivity.
* `Value.sameKey_refl`, `Value.same_self`, `Value.same_self_of_same` — reflexivity.
* `Value.sameKey_comm` — symmetry, for what can be a key.
-/

namespace Intake

open Numeric (Number Binary64)

namespace Value

attribute [local simp] looseEq sameNaN

/-! ## Induction on what a value holds -/

/-- Induction on a value: what is claimed of a container may be taken as known of all it holds. -/
@[elab_as_elim]
theorem induction {motive : Value → Prop} (null : motive .null) (undefined : motive .undefined)
    (bool : ∀ b, motive (.bool b)) (number : ∀ n, motive (.number n))
    (text : ∀ s, motive (.text s))
    (list : ∀ items, (∀ v ∈ items, motive v) → motive (.list items))
    (tuple : ∀ items, (∀ v ∈ items, motive v) → motive (.tuple items))
    (dict : ∀ entries : List (Value × Value),
      (∀ e ∈ entries, motive e.1 ∧ motive e.2) → motive (.dict entries))
    (moment : ∀ m, motive (.moment m)) (day : ∀ d, motive (.day d))
    (pattern : ∀ p, motive (.pattern p)) (foreign : ∀ name n, motive (.foreign name n))
    (v : Value) : motive v := by
  refine @Value.rec motive (fun items => ∀ v ∈ items, motive v)
    (fun entries => ∀ e ∈ entries, motive e.1 ∧ motive e.2) (fun e => motive e.1 ∧ motive e.2)
    null undefined bool number text list tuple dict moment day pattern foreign
    ?_ ?_ ?_ ?_ ?_ v
  · simp
  · intro head tail hhead htail v hv
    rcases List.mem_cons.mp hv with rfl | hv
    · exact hhead
    · exact htail v hv
  · simp
  · intro head tail hhead htail e he
    rcases List.mem_cons.mp he with rfl | he
    · exact hhead
    · exact htail e he
  · intro key value hkey hvalue
    exact ⟨hkey, hvalue⟩

/-! ## Keys -/

theorem eq_of_sameNaN {a b : Value} (h : sameNaN a b = true) : a = b := by
  simp only [sameNaN] at h
  split at h <;> simp_all

theorem sameKey_iff {a b : Value} :
    sameKey a b = true ↔ sameNaN a b = true ∨ looseEq a b = true := by
  simp [sameKey]

/-- Keys that are texts are the same only if they are equal. -/
@[simp] theorem sameKey_text (s t : String) : sameKey (.text s) (.text t) = decide (s = t) := by
  simp [sameKey]

/-! ## Containers -/

@[simp] theorem looseEqItems_cons (a b : Value) (as bs : List Value) :
    looseEqItems (a :: as) (b :: bs) = (sameKey a b && looseEqItems as bs) := by
  simp [looseEqItems, sameKey]

theorem looseEqEntries_iff {as bs : List (Value × Value)} :
    looseEqEntries as bs = true ↔
      ∀ e ∈ as, ∃ f ∈ bs, sameKey e.1 f.1 = true ∧ sameKey e.2 f.2 = true := by
  induction as with
  | nil => simp [looseEqEntries]
  | cons e as ih =>
    simp only [looseEqEntries, sameKey, Bool.and_eq_true, List.any_eq_true, ih,
      List.forall_mem_cons]

/-! ## Numbers and truth values -/

theorem looseEq_of_asNumber {a b : Value} {m n : Number} (ha : a.asNumber? = some m)
    (hb : b.asNumber? = some n) : looseEq a b = m.eq n := by
  cases a <;> simp [asNumber?] at ha <;> cases b <;> simp [asNumber?] at hb <;>
    subst ha <;> subst hb
  · rename_i a b
    cases a <;> cases b <;> simp
  · simp [Number.eq_comm]
  · simp
  · simp

/-- What equals a number is one as well. -/
theorem exists_asNumber_of_looseEq {a b : Value} {m : Number} (ha : a.asNumber? = some m)
    (h : looseEq a b = true) : ∃ n, b.asNumber? = some n ∧ m.eq n = true := by
  have hb : ∃ n, b.asNumber? = some n := by
    cases a <;> simp [asNumber?] at ha <;> cases b <;> simp at h <;>
      exact ⟨_, rfl⟩
  obtain ⟨n, hn⟩ := hb
  exact ⟨n, hn, looseEq_of_asNumber ha hn ▸ h⟩

/-! ## Transitivity -/

theorem sameKey_trans_of {a : Value} (ih : ∀ b c, looseEq a b = true → looseEq b c = true →
      looseEq a c = true) {b c : Value} (hab : sameKey a b = true) (hbc : sameKey b c = true) :
    sameKey a c = true := by
  rcases sameKey_iff.mp hab with h | h
  · exact eq_of_sameNaN h ▸ hbc
  · rcases sameKey_iff.mp hbc with h' | h'
    · exact eq_of_sameNaN h' ▸ hab
    · exact sameKey_iff.mpr (.inr (ih b c h h'))

theorem looseEqItems_trans_of {as : List Value}
    (ih : ∀ a ∈ as, ∀ b c, looseEq a b = true → looseEq b c = true → looseEq a c = true) :
    ∀ {bs cs : List Value}, looseEqItems as bs = true → looseEqItems bs cs = true →
      looseEqItems as cs = true := by
  induction as with
  | nil =>
    intro bs cs hab hbc
    cases bs with
    | nil => exact hbc
    | cons b bs => simp [looseEqItems] at hab
  | cons a as ihs =>
    intro bs cs hab hbc
    cases bs with
    | nil => simp [looseEqItems] at hab
    | cons b bs =>
      cases cs with
      | nil => simp [looseEqItems] at hbc
      | cons c cs =>
        simp only [looseEqItems_cons, Bool.and_eq_true] at hab hbc ⊢
        exact ⟨sameKey_trans_of (ih a List.mem_cons_self) hab.1 hbc.1,
          ihs (fun a ha => ih a (List.mem_cons_of_mem _ ha)) hab.2 hbc.2⟩

theorem looseEqEntries_trans_of {as bs cs : List (Value × Value)}
    (ih : ∀ e ∈ as,
      (∀ b c, looseEq e.1 b = true → looseEq b c = true → looseEq e.1 c = true) ∧
      (∀ b c, looseEq e.2 b = true → looseEq b c = true → looseEq e.2 c = true))
    (hab : looseEqEntries as bs = true) (hbc : looseEqEntries bs cs = true) :
    looseEqEntries as cs = true := by
  rw [looseEqEntries_iff] at hab hbc ⊢
  intro e he
  obtain ⟨f, hf, hkey, hvalue⟩ := hab e he
  obtain ⟨g, hg, hkey', hvalue'⟩ := hbc f hf
  exact ⟨g, hg, sameKey_trans_of (ih e he).1 hkey hkey',
    sameKey_trans_of (ih e he).2 hvalue hvalue'⟩

/-- Numbers and truth values pass equality on by their number. -/
theorem looseEq_trans_of_asNumber {a b c : Value} {m : Number} (ha : a.asNumber? = some m)
    (hab : looseEq a b = true) (hbc : looseEq b c = true) : looseEq a c = true := by
  obtain ⟨n, hb, hmn⟩ := exists_asNumber_of_looseEq ha hab
  obtain ⟨k, hc, hnk⟩ := exists_asNumber_of_looseEq hb hbc
  rw [looseEq_of_asNumber ha hc]
  exact Number.eq_trans hmn hnk

/-- The loose equality is transitive, whatever containers hold. -/
theorem looseEq_trans {a b c : Value} (hab : looseEq a b = true) (hbc : looseEq b c = true) :
    looseEq a c = true := by
  induction a using Value.induction generalizing b c with
  | bool x => exact looseEq_trans_of_asNumber rfl hab hbc
  | number n => exact looseEq_trans_of_asNumber rfl hab hbc
  | list items ih =>
    cases b <;> simp only [looseEq, Bool.false_eq_true] at hab
    cases c <;> simp only [looseEq, Bool.false_eq_true] at hbc ⊢
    exact looseEqItems_trans_of (fun a ha b c => ih a ha) hab hbc
  | tuple items ih =>
    cases b <;> simp only [looseEq, Bool.false_eq_true] at hab
    cases c <;> simp only [looseEq, Bool.false_eq_true] at hbc ⊢
    exact looseEqItems_trans_of (fun a ha b c => ih a ha) hab hbc
  | dict entries ih =>
    cases b <;> simp only [looseEq, Bool.false_eq_true, Bool.and_eq_true, decide_eq_true_eq] at hab
    cases c <;>
      simp only [looseEq, Bool.false_eq_true, Bool.and_eq_true, decide_eq_true_eq] at hbc ⊢
    exact ⟨hab.1.trans hbc.1, looseEqEntries_trans_of
      (fun e he => ⟨fun b c => (ih e he).1, fun b c => (ih e he).2⟩) hab.2 hbc.2⟩
  | moment m =>
    cases b <;> simp only [looseEq, Bool.false_eq_true] at hab
    cases c <;> simp only [looseEq, Bool.false_eq_true] at hbc ⊢
    simp only [Calendar.Moment.same, Bool.and_eq_true, decide_eq_true_eq] at hab hbc ⊢
    exact ⟨hab.1.trans hbc.1, hab.2.trans hbc.2⟩
  | pattern p =>
    cases b <;> simp only [looseEq, Bool.false_eq_true] at hab
    cases c <;> simp only [looseEq, Bool.false_eq_true] at hbc ⊢
    simp only [Pattern.same, Bool.and_eq_true, decide_eq_true_eq] at hab hbc ⊢
    exact ⟨hab.1.trans hbc.1, hab.2.trans hbc.2⟩
  | null | undefined =>
    cases b <;> simp only [looseEq, Bool.false_eq_true] at hab
    exact hbc
  | text s | day d | foreign name n =>
    cases b <;> simp only [looseEq, Bool.false_eq_true, decide_eq_true_eq] at hab
    cases c <;> simp only [looseEq, Bool.false_eq_true, decide_eq_true_eq] at hbc ⊢
    exact hab.trans hbc

theorem sameKey_trans {a b c : Value} (hab : sameKey a b = true) (hbc : sameKey b c = true) :
    sameKey a c = true :=
  sameKey_trans_of (fun _ _ => looseEq_trans) hab hbc

/-! ## Reflexivity -/

theorem looseEqItems_self {items : List Value} (h : ∀ v ∈ items, sameKey v v = true) :
    looseEqItems items items = true := by
  induction items with
  | nil => rfl
  | cons v items ih => simp_all

/-- Every value is the same key as itself; only not-a-number does not equal itself otherwise. -/
@[simp] theorem sameKey_refl (a : Value) : sameKey a a = true := by
  induction a using Value.induction with
  | number n =>
    cases hn : n.isNaN with
    | false => exact sameKey_iff.mpr (.inr (by simp [Number.eq_self hn]))
    | true =>
      rcases n with n | ⟨payload⟩ | _ | _ <;> simp [Number.isNaN] at hn
      simp [sameKey]
  | list items ih => simp [sameKey, looseEqItems_self ih]
  | tuple items ih => simp [sameKey, looseEqItems_self ih]
  | dict entries ih =>
    have : looseEqEntries entries entries = true :=
      looseEqEntries_iff.mpr fun e he => ⟨e, he, ih e he⟩
    simp [sameKey, this]
  | moment m => simp [sameKey, Calendar.Moment.same]
  | pattern p => simp [sameKey, Pattern.same]
  | null | undefined | bool b | text s | day d | foreign name n => simp [sameKey]

/-- Nothing equals a not-a-number. -/
theorem looseEq_nan (a : Value) (payload : Nat) :
    looseEq a (.number (.float (.nan payload))) = false := by
  have hnan : ∀ m : Number, m.eq (.float (.nan payload)) = false := by
    intro m
    rw [Bool.eq_false_iff]
    intro h
    obtain ⟨p, -, hp⟩ := Number.eq_iff.mp h
    cases hp
  cases a <;> simp [Number.eq_comm (.float (.nan payload)), hnan]

/-- What a value equals equals itself, for it is not a not-a-number. -/
theorem looseEq_self_of_looseEq {a b : Value} (h : looseEq a b = true) : looseEq b b = true := by
  rcases sameKey_iff.mp (sameKey_refl b) with hnan | hb
  · simp only [sameNaN] at hnan
    split at hnan
    · rw [looseEq_nan] at h
      cases h
    · cases hnan
  · exact hb

/-! ## Symmetry -/

theorem sameNaN_comm (a b : Value) : sameNaN a b = sameNaN b a := by
  refine Bool.eq_iff_iff.mpr ⟨fun h => ?_, fun h => ?_⟩
  · obtain rfl := eq_of_sameNaN h
    exact h
  · obtain rfl := eq_of_sameNaN h
    exact h

theorem looseEqItems_comm {as : List Value} (h : ∀ a ∈ as, ∀ b, sameKey a b = sameKey b a) :
    ∀ bs : List Value, looseEqItems as bs = looseEqItems bs as := by
  induction as with
  | nil =>
    intro bs
    cases bs <;> rfl
  | cons a as ih =>
    intro bs
    cases bs with
    | nil => rfl
    | cons b bs =>
      rw [looseEqItems_cons, looseEqItems_cons, h a List.mem_cons_self b,
        ih (fun a ha => h a (List.mem_cons_of_mem _ ha)) bs]

theorem areHashable_iff {items : List Value} :
    areHashable items = true ↔ ∀ v ∈ items, v.isHashable = true := by
  induction items with
  | nil => simp [areHashable]
  | cons v items ih => simp [areHashable, ih]

/-- What can be a key is the same as the keys that are the same as it.  Dictionaries that repeat a
key, which are compared entry by entry, need not be. -/
theorem sameKey_comm {a : Value} (ha : a.isHashable = true) (b : Value) :
    sameKey a b = sameKey b a := by
  rw [sameKey, sameKey, sameNaN_comm]
  congr 1
  induction a using Value.induction generalizing b with
  | list items => cases ha
  | dict entries => cases ha
  | tuple items ih =>
    have hitems := areHashable_iff.mp ha
    cases b with
    | tuple bs =>
      refine looseEqItems_comm (fun a ha b => ?_) bs
      rw [sameKey, sameKey, sameNaN_comm, ih a ha (hitems a ha) b]
    | _ => rfl
  | number n => cases b <;> simp [Number.eq_comm]
  | moment m => cases b <;> simp [Calendar.Moment.same, eq_comm]
  | pattern p => cases b <;> simp [Pattern.same, eq_comm]
  | null | undefined | bool b | text s | day d | foreign name n => cases b <;> simp [eq_comm]

/-! ## The strict equality -/

/-- Whether a value is a truth value. -/
def isBool : Value → Bool
  | .bool _ => true
  | _ => false

/-- The strict equality is the loose one, but for a truth value against a number. -/
theorem same_iff {a b : Value} :
    a.same b = true ↔ a.isBool = b.isBool ∧ looseEq a b = true := by
  cases a <;> cases b <;> simp [same, isBool]

theorem same_trans {a b c : Value} (hab : a.same b = true) (hbc : b.same c = true) :
    a.same c = true := by
  rw [same_iff] at hab hbc ⊢
  exact ⟨hab.1.trans hbc.1, looseEq_trans hab.2 hbc.2⟩

/-- A value that some input is the same as is accepted in its own place. -/
theorem same_self_of_same {a b : Value} (h : a.same b = true) : b.same b = true :=
  same_iff.mpr ⟨rfl, looseEq_self_of_looseEq (same_iff.mp h).2⟩

theorem exists_of_kind_eq_nan {a : Value} (h : a.kind = .nan) :
    ∃ payload, a = .number (.float (.nan payload)) := by
  cases a <;> simp [kind] at h
  rename_i n
  rcases n with n | ⟨payload⟩ | _ | _ <;> simp [Number.isNaN] at h
  exact ⟨payload, rfl⟩

/-- The loose equality is the one of keys, but for not-a-number. -/
theorem looseEq_iff {a b : Value} :
    looseEq a b = true ↔ a.kind ≠ .nan ∧ a.sameKey b = true := by
  rw [sameKey_iff]
  constructor
  · intro h
    refine ⟨fun hnan => ?_, .inr h⟩
    obtain ⟨payload, rfl⟩ := exists_of_kind_eq_nan hnan
    obtain ⟨m, -, hm⟩ := exists_asNumber_of_looseEq rfl h
    obtain ⟨p, hp, -⟩ := Number.eq_iff.mp hm
    cases hp
  · rintro ⟨hnan, h | h⟩
    · simp only [sameNaN] at h
      split at h
      · exact absurd rfl hnan
      · cases h
    · exact h

/-- Everything but not-a-number is the same as itself. -/
theorem same_self {a : Value} (h : a.kind ≠ .nan) : a.same a = true :=
  same_iff.mpr ⟨rfl, looseEq_iff.mpr ⟨h, sameKey_refl a⟩⟩

end Value

end Intake
