import Intake.Proofs.Value.Entries
import Intake.Proofs.Value.Json
import Mathlib.Data.List.Pairwise
import Mathlib.Data.List.Perm.Subperm

/-!
# What faces what in equal values

Values that are the same have one shape: items face each other by their place in a sequence, and
entries of dictionaries by a pairing of their keys.  The strict equality keeps truth values and
numbers apart where they stand for themselves, but inside of containers a truth value may face the
number that it is equal to.

## Main definitions

* `Value.Faces` — values of one shape, with a relation between the atoms that face each other.
* `Value.Matches`, `Value.Mirrors` — atoms that are the same as keys, and that are so without a
  truth value for a number.
* `Value.Keyed` — values whose dictionaries are well-formed.
* `Value.Unmistakable` — values without a part that a truth value can stand for.
* `Value.twin` — a value with truth values for numbers and numbers for truth values.

## Main statements

* `Value.sameKey_iff_matches`, `Value.same_iff_matches` — equal values have one shape.
* `Value.Matches.mirrors` — what matches an unmistakable value mirrors it.
* `Value.forall_mirrors_iff` — the enumerations whose inputs mirror their members.
-/

namespace Intake.Value

open Numeric (Number)

variable {a b u v w : Value} {items as bs : List Value} {entries : List (Value × Value)}

/-! ## Shapes -/

/-- Whether a value holds no others by its kind. -/
def isAtom : Value → Bool
  | .list _ | .tuple _ | .dict _ => false
  | _ => true

/-- Two values have one shape, and the atoms that face each other are related.  The entries of a
dictionary face those of another by a pairing, in whatever order they stand. -/
inductive Faces (R : Value → Value → Prop) : Value → Value → Prop
  | atom {a b : Value} (ha : a.isAtom = true) (hb : b.isAtom = true) (h : R a b) : Faces R a b
  | list {as bs : List Value} (length_eq : as.length = bs.length)
      (items : ∀ (i : Nat) (x y : Value), as[i]? = some x → bs[i]? = some y → Faces R x y) :
      Faces R (.list as) (.list bs)
  | tuple {as bs : List Value} (length_eq : as.length = bs.length)
      (items : ∀ (i : Nat) (x y : Value), as[i]? = some x → bs[i]? = some y → Faces R x y) :
      Faces R (.tuple as) (.tuple bs)
  | dict {as bs : List (Value × Value)} (partner : Value × Value → Value × Value)
      (perm : (as.map partner).Perm bs) (keys : ∀ e ∈ as, Faces R e.1 (partner e).1)
      (values : ∀ e ∈ as, Faces R e.2 (partner e).2) : Faces R (.dict as) (.dict bs)

/-- Atoms that face each other are the same as keys. -/
def Matches : Value → Value → Prop :=
  Faces fun x y => x.sameKey y = true

/-- Atoms that face each other are the same as keys, and a truth value only faces itself. -/
def Mirrors : Value → Value → Prop :=
  Faces fun x y => x.sameKey y = true ∧ (x.isBool = true ∨ y.isBool = true → x = y)

theorem isAtom_eq_of_sameKey (h : a.sameKey b = true) : a.isAtom = b.isAtom := by
  rcases sameKey_iff.mp h with h | h
  · rw [eq_of_sameNaN h]
  · cases a <;> cases b <;> simp [looseEq, isAtom] at h ⊢

/-- A relation between atoms may be changed where it holds of what lies in the second value. -/
theorem Faces.imp_of_holds {R S : Value → Value → Prop} (h : Faces R a b)
    (himp : ∀ x y, Holds y b → R x y → S x y) : Faces S a b := by
  induction h with
  | @atom a b ha hb h => exact .atom ha hb (himp a b .self h)
  | list length_eq _ ih =>
    exact .list length_eq fun i x y hx hy => ih i x y hx hy fun u v hv =>
      himp u v (.item (List.mem_of_getElem? hy) hv)
  | tuple length_eq _ ih =>
    exact .tuple length_eq fun i x y hx hy => ih i x y hx hy fun u v hv =>
      himp u v (.member (List.mem_of_getElem? hy) hv)
  | dict partner perm _ _ ihkeys ihvalues =>
    have hmem : ∀ e ∈ _, partner e ∈ _ := fun e he => perm.subset (List.mem_map_of_mem he)
    exact .dict partner perm (fun e he => ihkeys e he fun u v hv => himp u v (.key (hmem e he) hv))
      fun e he => ihvalues e he fun u v hv => himp u v (.bound (hmem e he) hv)

theorem Mirrors.matches (h : a.Mirrors b) : a.Matches b :=
  h.imp_of_holds fun _ _ _ hxy => hxy.1

/-! ## Well-formed dictionaries -/

/-- The keys of all dictionaries in a value can be keys, and no two of one dictionary are the
same. -/
def Keyed (v : Value) : Prop :=
  ∀ entries, Holds (.dict entries) v →
    (∀ entry ∈ entries, entry.1.isHashable = true) ∧ Entries.Distinct entries

namespace Keyed

theorem item (h : (Value.list items).Keyed) (hv : v ∈ items) : v.Keyed :=
  fun inner hholds => h inner (.item hv hholds)

theorem member (h : (Value.tuple items).Keyed) (hv : v ∈ items) : v.Keyed :=
  fun inner hholds => h inner (.member hv hholds)

theorem key (h : (Value.dict entries).Keyed) {entry : Value × Value} (hentry : entry ∈ entries) :
    entry.1.Keyed :=
  fun inner hholds => h inner (.key hentry hholds)

theorem bound (h : (Value.dict entries).Keyed) {entry : Value × Value}
    (hentry : entry ∈ entries) : entry.2.Keyed :=
  fun inner hholds => h inner (.bound hentry hholds)

theorem isHashable (h : (Value.dict entries).Keyed) {entry : Value × Value}
    (hentry : entry ∈ entries) : entry.1.isHashable = true :=
  (h entries .self).1 entry hentry

/-- The entries of a dictionary with the same key are one entry. -/
theorem eq_of_sameKey (h : (Value.dict entries).Keyed) {e f : Value × Value} (he : e ∈ entries)
    (hf : f ∈ entries) (hsame : e.1.sameKey f.1 = true) : e = f := by
  obtain ⟨hhash, hdistinct⟩ := h entries .self
  by_contra hne
  have hpair : entries.Pairwise fun e f => e.1.sameKey f.1 = false ∧ f.1.sameKey e.1 = false :=
    (List.pairwise_map.mp hdistinct).imp_of_mem fun {e f} he _ hfalse =>
      ⟨hfalse, sameKey_comm (hhash e he) f.1 ▸ hfalse⟩
  have hsymm : Std.Symm fun e f : Value × Value =>
      e.1.sameKey f.1 = false ∧ f.1.sameKey e.1 = false := ⟨fun _ _ h => h.symm⟩
  rw [(hpair.forall he hf hne).1] at hsame
  cases hsame

end Keyed

/-! ## Equal values have one shape -/

theorem looseEqItems_iff : looseEqItems as bs = true ↔ as.length = bs.length ∧
    ∀ (i : Nat) (x y : Value), as[i]? = some x → bs[i]? = some y → x.sameKey y = true := by
  induction as generalizing bs with
  | nil => cases bs <;> simp [looseEqItems]
  | cons a as ih =>
    cases bs with
    | nil => simp [looseEqItems]
    | cons b bs =>
      rw [looseEqItems_cons, Bool.and_eq_true, ih, List.length_cons, List.length_cons,
        Nat.add_right_cancel_iff]
      constructor
      · rintro ⟨hhead, hlength, htail⟩
        refine ⟨hlength, fun i x y hx hy => ?_⟩
        cases i with
        | zero =>
          cases hx
          cases hy
          exact hhead
        | succ i => exact htail i x y hx hy
      · rintro ⟨hlength, h⟩
        exact ⟨h 0 a b rfl rfl, hlength, fun i x y hx hy => h (i + 1) x y hx hy⟩

/-- What matches a value is the same as it. -/
theorem Matches.sameKey (h : a.Matches b) : a.sameKey b = true := by
  induction h with
  | atom _ _ h => exact h
  | list length_eq _ ih | tuple length_eq _ ih =>
    exact sameKey_iff.mpr (.inr (looseEqItems_iff.mpr ⟨length_eq, ih⟩))
  | @dict as bs partner perm _ _ ihkeys ihvalues =>
    have hlength : as.length = bs.length := by simpa using perm.length_eq
    have hentries : looseEqEntries as bs = true := looseEqEntries_iff.mpr fun e he =>
      ⟨partner e, perm.subset (List.mem_map_of_mem he), ihkeys e he, ihvalues e he⟩
    exact sameKey_iff.mpr (.inr (by simp [looseEq, hlength, hentries]))

/-- Entries with partners among as many entries are paired with all of these. -/
theorem exists_partner {as bs : List (Value × Value)} (hkeyed : (Value.dict as).Keyed)
    (hlength : as.length = bs.length) (h : looseEqEntries as bs = true) :
    ∃ partner : Value × Value → Value × Value, (as.map partner).Perm bs ∧
      ∀ e ∈ as, e.1.sameKey (partner e).1 = true ∧ e.2.sameKey (partner e).2 = true := by
  obtain ⟨hhash, hdistinct⟩ := hkeyed as .self
  choose! partner hmem hsame using looseEqEntries_iff.mp h
  -- Entries with one partner would have the same key.
  have hapart : as.Pairwise fun e f => partner e ≠ partner f := by
    refine (List.pairwise_map.mp hdistinct).imp_of_mem fun {e f} he hf hfalse heq => ?_
    have hback : (partner e).1.sameKey f.1 = true := by
      rw [heq, ← sameKey_comm (hhash f hf)]
      exact (hsame f hf).1
    rw [sameKey_trans (hsame e he).1 hback] at hfalse
    cases hfalse
  have hnodup : (as.map partner).Nodup := List.pairwise_map.mpr hapart
  have hsubset : as.map partner ⊆ bs := by
    intro f hf
    obtain ⟨e, he, rfl⟩ := List.mem_map.mp hf
    exact hmem e he
  have hperm := (List.subperm_of_subset hnodup hsubset).perm_of_length_le (by simp [hlength])
  exact ⟨partner, hperm, hsame⟩

/-- What is the same as a value matches it. -/
theorem matches_of_sameKey (ha : a.Keyed) (h : a.sameKey b = true) : a.Matches b := by
  induction a using Value.induction generalizing b with
  | list items ih =>
    cases b with
    | list bs =>
      obtain ⟨hlength, hitems⟩ := looseEqItems_iff.mp (by simpa [sameKey, sameNaN, looseEq] using h)
      refine .list hlength fun i x y hx hy => ?_
      have hmem := List.mem_of_getElem? hx
      exact ih x hmem (ha.item hmem) (hitems i x y hx hy)
    | _ => simp [sameKey, sameNaN, looseEq] at h
  | tuple items ih =>
    cases b with
    | tuple bs =>
      obtain ⟨hlength, hitems⟩ := looseEqItems_iff.mp (by simpa [sameKey, sameNaN, looseEq] using h)
      refine .tuple hlength fun i x y hx hy => ?_
      have hmem := List.mem_of_getElem? hx
      exact ih x hmem (ha.member hmem) (hitems i x y hx hy)
    | _ => simp [sameKey, sameNaN, looseEq] at h
  | dict entries ih =>
    cases b with
    | dict bs =>
      obtain ⟨hlength, hentries⟩ :
          entries.length = bs.length ∧ looseEqEntries entries bs = true := by
        simpa [sameKey, sameNaN, looseEq] using h
      obtain ⟨partner, hperm, hsame⟩ := exists_partner ha hlength hentries
      refine .dict partner hperm (fun e he => ?_) fun e he => ?_
      · exact (ih e he).1 (ha.key he) (hsame e he).1
      · exact (ih e he).2 (ha.bound he) (hsame e he).2
    | _ => simp [sameKey, sameNaN, looseEq] at h
  | _ => exact .atom rfl (isAtom_eq_of_sameKey h).symm h

theorem sameKey_iff_matches (ha : a.Keyed) : a.sameKey b = true ↔ a.Matches b :=
  ⟨matches_of_sameKey ha, Matches.sameKey⟩

/-- What an input is the same as by the strict equality: a value of its shape, with the same truth
values for truth values where these stand for themselves. -/
theorem same_iff_matches (ha : a.Keyed) :
    a.same b = true ↔ a.isBool = b.isBool ∧ a.kind ≠ .nan ∧ a.Matches b := by
  rw [same_iff, looseEq_iff, sameKey_iff_matches ha]

/-! ## Mistakable values -/

/-- A truth value can stand for a value: one that is a truth value, or the number one or zero. -/
def Mistakable (v : Value) : Prop :=
  ∃ t, looseEq v (.bool t) = true

/-- There is nothing in a value that a truth value can stand for, unless it is the value itself. -/
def Unmistakable (v : Value) : Prop :=
  ∀ u, Holds u v → u.Mistakable → u = v

theorem Mistakable.isAtom (h : v.Mistakable) : v.isAtom = true := by
  obtain ⟨t, ht⟩ := h
  exact isAtom_eq_of_sameKey (sameKey_iff.mpr (.inr ht))

theorem mistakable_of_isBool (h : v.isBool = true) : v.Mistakable := by
  cases v <;> cases h
  rename_i t
  exact ⟨t, by simp [looseEq]⟩

/-- What is the same as a truth value is mistakable. -/
theorem mistakable_of_sameKey (h : a.sameKey b = true) (ha : a.isBool = true) : b.Mistakable := by
  cases a <;> cases ha
  rename_i t
  refine ⟨t, ?_⟩
  have hsame : b.sameKey (.bool t) = true := by rwa [← sameKey_comm rfl]
  rcases sameKey_iff.mp hsame with hnan | hloose
  · rw [eq_of_sameNaN hnan]
    simp [looseEq]
  · exact hloose

theorem eq_of_sameKey_of_isBool (h : a.sameKey b = true) (ha : a.isBool = true)
    (hb : b.isBool = true) : a = b := by
  cases a <;> cases ha
  cases b <;> cases hb
  simpa [sameKey, sameNaN, looseEq] using h

/-- What faces an unmistakable atom is no truth value. -/
theorem Matches.mirrors_of_forall (h : a.Matches b)
    (hb : ∀ u, Holds u b → ¬ u.Mistakable) : a.Mirrors b := by
  refine h.imp_of_holds fun x y hy hxy => ⟨hxy, fun hbool => absurd ?_ (hb y hy)⟩
  rcases hbool with hx | hy
  · exact mistakable_of_sameKey hxy hx
  · exact mistakable_of_isBool hy

/-- What matches an unmistakable value mirrors it, if both or neither are truth values. -/
theorem Matches.mirrors (h : a.Matches b) (hbool : a.isBool = b.isBool)
    (hb : b.Unmistakable) : a.Mirrors b := by
  cases hatom : b.isAtom with
  | false =>
    refine h.mirrors_of_forall fun u hu hmistakable => ?_
    rw [← hb u hu hmistakable, hmistakable.isAtom] at hatom
    cases hatom
  | true =>
    cases h with
    | atom ha hb hsame =>
      refine .atom ha hb ⟨hsame, fun htruth => eq_of_sameKey_of_isBool hsame ?_ ?_⟩
      · rwa [← hbool, or_self] at htruth
      · rwa [hbool, or_self] at htruth
    | _ => cases hatom

/-! ## Twins -/

mutual

/-- A value with truth values for the numbers that they are equal to, and numbers for truth
values. -/
def twin : Value → Value
  | .bool t => .int (if t then 1 else 0)
  | .number n =>
    if n.eq (.int 1) then .bool true else if n.eq (.int 0) then .bool false else .number n
  | .list items => .list (twinItems items)
  | .tuple items => .tuple (twinItems items)
  | .dict entries => .dict (twinEntries entries)
  | v => v

/-- The twins of some values. -/
def twinItems : List Value → List Value
  | [] => []
  | item :: items => twin item :: twinItems items

/-- The twins of some entries. -/
def twinEntries : List (Value × Value) → List (Value × Value)
  | [] => []
  | (key, value) :: entries => (twin key, twin value) :: twinEntries entries

end

theorem twinItems_eq_map (items : List Value) : twinItems items = items.map twin := by
  induction items with
  | nil => rfl
  | cons item items ih => rw [twinItems, ih, List.map_cons]

theorem twinEntries_eq_map (entries : List (Value × Value)) :
    twinEntries entries = entries.map fun entry => (twin entry.1, twin entry.2) := by
  induction entries with
  | nil => rfl
  | cons entry entries ih => rw [twinEntries, ih, List.map_cons]

theorem looseEqItems_map {f : Value → Value}
    (h : ∀ v ∈ items, (f v).sameKey v = true ∧ v.sameKey (f v) = true) :
    looseEqItems (items.map f) items = true ∧ looseEqItems items (items.map f) = true := by
  induction items with
  | nil => exact ⟨rfl, rfl⟩
  | cons v items ih =>
    obtain ⟨hhead, htail⟩ := List.forall_mem_cons.mp h
    simp [hhead, ih htail]

theorem looseEqEntries_map {f : Value → Value}
    (h : ∀ e ∈ entries, ((f e.1).sameKey e.1 = true ∧ e.1.sameKey (f e.1) = true) ∧
      (f e.2).sameKey e.2 = true ∧ e.2.sameKey (f e.2) = true) :
    looseEqEntries (entries.map fun e => (f e.1, f e.2)) entries = true ∧
      looseEqEntries entries (entries.map fun e => (f e.1, f e.2)) = true := by
  simp only [looseEqEntries_iff, List.forall_mem_map]
  exact ⟨fun e he => ⟨e, he, (h e he).1.1, (h e he).2.1⟩,
    fun e he => ⟨_, List.mem_map_of_mem he, (h e he).1.2, (h e he).2.2⟩⟩

/-- A value and its twin are the same as keys. -/
theorem sameKey_twin (v : Value) : v.twin.sameKey v = true ∧ v.sameKey v.twin = true := by
  induction v using Value.induction with
  | bool t => cases t <;> simp [twin, sameKey, looseEq, Value.int]
  | number n =>
    rw [twin]
    split
    · rename_i hone
      simp [sameKey, looseEq, hone]
    · split
      · rename_i hzero
        simp [sameKey, looseEq, hzero]
      · simp
  | list items ih =>
    rw [twin, twinItems_eq_map]
    simp [sameKey, looseEq, looseEqItems_map ih]
  | tuple items ih =>
    rw [twin, twinItems_eq_map]
    simp [sameKey, looseEq, looseEqItems_map ih]
  | dict entries ih =>
    rw [twin, twinEntries_eq_map]
    simp [sameKey, looseEq, looseEqEntries_map ih]
  | _ => simp [twin]

theorem isAtom_twin (v : Value) : v.twin.isAtom = v.isAtom :=
  isAtom_eq_of_sameKey (sameKey_twin v).1

theorem isHashable_twin (v : Value) : v.twin.isHashable = v.isHashable := by
  induction v using Value.induction with
  | number n =>
    rw [twin]
    split
    · rfl
    · split <;> rfl
  | tuple items ih =>
    rw [twin, twinItems_eq_map, isHashable, isHashable, Bool.eq_iff_iff, areHashable_iff,
      areHashable_iff, List.forall_mem_map]
    exact forall₂_congr fun v hv => by rw [ih v hv]
  | _ => rfl

/-- The dictionaries in a twin are twins. -/
theorem exists_of_holds_twin (h : Holds (.dict entries) v.twin) :
    ∃ inner, entries = twinEntries inner ∧ Holds (.dict inner) v := by
  induction v using Value.induction with
  | number n =>
    rw [twin] at h
    split at h
    · cases h
    · split at h <;> cases h
  | list items ih =>
    rw [twin, twinItems_eq_map] at h
    cases h with
    | item mem holds =>
      obtain ⟨v, hv, rfl⟩ := List.mem_map.mp mem
      obtain ⟨inner, hinner, hholds⟩ := ih v hv holds
      exact ⟨inner, hinner, .item hv hholds⟩
  | tuple items ih =>
    rw [twin, twinItems_eq_map] at h
    cases h with
    | member mem holds =>
      obtain ⟨v, hv, rfl⟩ := List.mem_map.mp mem
      obtain ⟨inner, hinner, hholds⟩ := ih v hv holds
      exact ⟨inner, hinner, .member hv hholds⟩
  | dict bound ih =>
    rw [twin] at h
    cases h with
    | self => exact ⟨bound, rfl, .self⟩
    | key mem holds =>
      rw [twinEntries_eq_map] at mem
      obtain ⟨e, he, rfl⟩ := List.mem_map.mp mem
      obtain ⟨inner, hinner, hholds⟩ := (ih e he).1 holds
      exact ⟨inner, hinner, .key he hholds⟩
    | bound mem holds =>
      rw [twinEntries_eq_map] at mem
      obtain ⟨e, he, rfl⟩ := List.mem_map.mp mem
      obtain ⟨inner, hinner, hholds⟩ := (ih e he).2 holds
      exact ⟨inner, hinner, .bound he hholds⟩
  | _ => cases h

theorem Keyed.twin (h : v.Keyed) : v.twin.Keyed := by
  intro entries hholds
  obtain ⟨inner, rfl, hinner⟩ := exists_of_holds_twin hholds
  obtain ⟨hhash, hdistinct⟩ := h inner hinner
  rw [twinEntries_eq_map]
  constructor
  · rw [List.forall_mem_map]
    exact fun e he => (isHashable_twin e.1).trans (hhash e he)
  · rw [Entries.Distinct, List.map_map, List.pairwise_map]
    refine (List.pairwise_map.mp hdistinct).imp_of_mem fun {e f} _ _ hfalse => ?_
    refine Bool.eq_false_iff.mpr fun hsame => ?_
    rw [sameKey_trans (sameKey_trans (sameKey_twin e.1).2 hsame) (sameKey_twin f.1).1] at hfalse
    cases hfalse

/-! ## Mistakable parts show -/

theorem Mirrors.isBool_eq (h : a.Mirrors b) : a.isBool = b.isBool := by
  cases h with
  | atom _ _ h =>
    obtain ⟨-, hbool⟩ := h
    cases ha : a.isBool with
    | true => rw [← hbool (.inl ha), ha]
    | false =>
      refine (Bool.eq_false_iff.mpr fun hb => ?_).symm
      rw [hbool (.inr hb), hb] at ha
      cases ha
  | _ => rfl

/-- A mistakable value or its twin is a truth value, but not both. -/
theorem isBool_twin (h : v.Mistakable) : v.twin.isBool = !v.isBool := by
  obtain ⟨t, ht⟩ := h
  cases v <;> simp only [looseEq, Bool.false_eq_true] at ht
  · rfl
  · rename_i n
    rw [twin]
    split
    · rfl
    · rename_i hone
      split
      · rfl
      · cases t <;> simp_all

theorem not_mistakable_of_mirrors (htwin : v.twin.Mirrors w) (h : v.Mirrors w) :
    ¬ v.Mistakable := by
  intro hmistakable
  have hflip := isBool_twin hmistakable
  rw [htwin.isBool_eq, h.isBool_eq] at hflip
  simp at hflip

/-- Where a dictionary and its twin mirror another, an entry and its twin mirror one entry. -/
theorem exists_mirrored_entry {bs : List (Value × Value)} (hw : (Value.dict bs).Keyed)
    (htwin : (Value.dict entries).twin.Mirrors (.dict bs))
    (h : (Value.dict entries).Mirrors (.dict bs)) {e : Value × Value} (he : e ∈ entries) :
    ∃ f ∈ bs, (e.1.twin.Mirrors f.1 ∧ e.1.Mirrors f.1) ∧
      e.2.twin.Mirrors f.2 ∧ e.2.Mirrors f.2 := by
  rw [twin, twinEntries_eq_map] at htwin
  cases htwin with
  | dict partner' perm' keys' values' =>
    cases h with
    | dict partner perm keys values =>
      have he' : (e.1.twin, e.2.twin) ∈ entries.map fun e => (e.1.twin, e.2.twin) :=
        List.mem_map_of_mem he
      have hmem := perm.subset (List.mem_map_of_mem he)
      have hmem' := perm'.subset (List.mem_map_of_mem he')
      have hkey : e.1.Mirrors (partner e).1 := keys e he
      have hkey' : e.1.twin.Mirrors (partner' (e.1.twin, e.2.twin)).1 := keys' _ he'
      have hback := hkey'.matches.sameKey
      rw [← sameKey_comm (hw.isHashable hmem')] at hback
      have heq := hw.eq_of_sameKey hmem' hmem
        (sameKey_trans (sameKey_trans hback (sameKey_twin e.1).1) hkey.matches.sameKey)
      exact ⟨partner e, hmem, ⟨heq ▸ hkey', hkey⟩, heq ▸ values' _ he', values e he⟩
    | atom ha => cases ha
  | atom ha => cases ha

/-- Where a sequence and its twin mirror another, an item and its twin mirror one item. -/
theorem exists_mirrored_item {R : Value → Value → Prop} (length_eq : items.length = bs.length)
    (htwin : ∀ (i : Nat) (x y : Value), (items.map twin)[i]? = some x → bs[i]? = some y → R x y)
    (h : ∀ (i : Nat) (x y : Value), items[i]? = some x → bs[i]? = some y → R x y)
    (hv : v ∈ items) : ∃ y ∈ bs, R v.twin y ∧ R v y := by
  obtain ⟨i, hi, rfl⟩ := List.mem_iff_getElem.mp hv
  have hlt : i < bs.length := length_eq ▸ hi
  have hitem : items[i]? = some items[i] := List.getElem?_eq_getElem hi
  have hfacing : bs[i]? = some bs[i] := List.getElem?_eq_getElem hlt
  exact ⟨bs[i], List.getElem_mem hlt,
    htwin i _ _ (by rw [List.getElem?_map, hitem, Option.map_some]) hfacing,
    h i _ _ hitem hfacing⟩

/-- What a value and its twin both mirror tells that there is nothing mistakable in the value. -/
theorem not_mistakable_of_holds (hu : Holds u v) (hw : w.Keyed) (htwin : v.twin.Mirrors w)
    (h : v.Mirrors w) : ¬ u.Mistakable := by
  induction hu generalizing w with
  | self => exact not_mistakable_of_mirrors htwin h
  | item mem _ ih =>
    rw [twin, twinItems_eq_map] at htwin
    cases htwin with
    | list _ htwin =>
      cases h with
      | list length_eq h =>
        obtain ⟨y, hy, hytwin, hyself⟩ := exists_mirrored_item length_eq htwin h mem
        exact ih (hw.item hy) hytwin hyself
      | atom ha => cases ha
    | atom ha => cases ha
  | member mem _ ih =>
    rw [twin, twinItems_eq_map] at htwin
    cases htwin with
    | tuple _ htwin =>
      cases h with
      | tuple length_eq h =>
        obtain ⟨y, hy, hytwin, hyself⟩ := exists_mirrored_item length_eq htwin h mem
        exact ih (hw.member hy) hytwin hyself
      | atom ha => cases ha
    | atom ha => cases ha
  | key mem _ ih =>
    cases id h with
    | dict =>
      obtain ⟨f, hf, hkey, -⟩ := exists_mirrored_entry hw htwin h mem
      exact ih (hw.key hf) hkey.1 hkey.2
    | atom ha => cases ha
  | bound mem _ ih =>
    cases id h with
    | dict =>
      obtain ⟨f, hf, -, hvalue⟩ := exists_mirrored_entry hw htwin h mem
      exact ih (hw.bound hf) hvalue.1 hvalue.2
    | atom ha => cases ha

/-! ## Enumerations -/

theorem Holds.eq_of_isAtom (hv : v.isAtom = true) (h : Holds u v) : u = v := by
  cases h with
  | self => rfl
  | item | member | key | bound => cases hv

theorem kind_ne_nan_of_isAtom (h : v.isAtom = false) : v.kind ≠ .nan := by
  intro hnan
  obtain ⟨payload, rfl⟩ := exists_of_kind_eq_nan hnan
  cases h

theorem isBool_of_isAtom (h : v.isAtom = false) : v.isBool = false := by
  cases v <;> first | rfl | cases h

/-- A container and its twin are the same as the same values. -/
theorem same_twin (h : v.isAtom = false) : v.twin.same = v.same := by
  have htwin : v.twin.isAtom = false := (isAtom_twin v).trans h
  have hbool : v.twin.isBool = v.isBool := (isBool_of_isAtom htwin).trans (isBool_of_isAtom h).symm
  have hto : v.twin.same v = true :=
    same_iff.mpr ⟨hbool, looseEq_iff.mpr ⟨kind_ne_nan_of_isAtom htwin, (sameKey_twin v).1⟩⟩
  have hback : v.same v.twin = true :=
    same_iff.mpr ⟨hbool.symm, looseEq_iff.mpr ⟨kind_ne_nan_of_isAtom h, (sameKey_twin v).2⟩⟩
  exact funext fun w => Bool.eq_iff_iff.mpr ⟨same_trans hback, same_trans hto⟩

/-- The inputs that an enumeration accepts mirror its members just if nothing in these can be
mistaken. -/
theorem forall_mirrors_iff {members : List Value} (hkeyed : ∀ m ∈ members, m.Keyed) :
    (∀ a w : Value, a.Keyed → members.find? a.same = some w → a.Mirrors w) ↔
      ∀ m ∈ members, m.Unmistakable := by
  constructor
  · intro h m hm u hu hmistakable
    by_contra hne
    have hatom : m.isAtom = false := Bool.eq_false_iff.mpr fun ha => hne (hu.eq_of_isAtom ha)
    obtain ⟨w, hw⟩ : ∃ w, members.find? m.same = some w := by
      rw [← Option.isSome_iff_exists, List.find?_isSome]
      exact ⟨m, hm, same_self (kind_ne_nan_of_isAtom hatom)⟩
    have htwin : m.twin.Mirrors w := h m.twin w (hkeyed m hm).twin (same_twin hatom ▸ hw)
    exact not_mistakable_of_holds hu (hkeyed w (List.mem_of_find?_eq_some hw)) htwin
      (h m w (hkeyed m hm) hw) hmistakable
  · intro h a w ha hw
    obtain ⟨hbool, -, hmatches⟩ := (same_iff_matches ha).mp (List.find?_some hw)
    exact hmatches.mirrors hbool (h w (List.mem_of_find?_eq_some hw))

end Intake.Value
