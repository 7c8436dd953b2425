import Intake.Proofs.Numeric.Fits
import Intake.Proofs.Schema.Reliable
import Intake.Proofs.Value.Json

/-!
# Mild values

Rules without options have trouble with few inputs: integers and texts of too many digits, and
classes without a name.  A value is mild if there are none of these in it.  The keys of a dictionary
are read as text only, so what digits they have does not matter.

## Main definitions

* `Value.Offers` — what lies in a value, but not in a key.
* `Value.Small` — values that hold small integers and short texts.
* `Value.Mild` — values without trouble in them.

## Main statements

* `Value.Mild.of_items`, `Value.Mild.of_entries` — parts of mild values.
* `Value.mild_atom`, `Value.mild_list`, `Value.mild_dict` — values put together.
-/

namespace Intake.Value

open Numeric (WritesTooLong WritesTooLarge TooLong)

variable {u v : Value} {items : List Value} {entries : List (Value × Value)} {floats : Prop}

/-! ## What lies in a value -/

/-- A value is another one or lies in it, but not in a key. -/
inductive Offers (u : Value) : Value → Prop
  | self : Offers u u
  | item {items : List Value} {v : Value} (mem : v ∈ items) (offers : Offers u v) :
      Offers u (.list items)
  | member {items : List Value} {v : Value} (mem : v ∈ items) (offers : Offers u v) :
      Offers u (.tuple items)
  | bound {entries : List (Value × Value)} {entry : Value × Value} (mem : entry ∈ entries)
      (offers : Offers u entry.2) : Offers u (.dict entries)

theorem Offers.holds (h : Offers u v) : Holds u v := by
  induction h with
  | self => exact .self
  | item mem _ ih => exact .item mem ih
  | member mem _ ih => exact .member mem ih
  | bound mem _ ih => exact .bound mem ih

theorem eq_of_items?_eq_some (h : v.items? = some items) : v = .list items ∨ v = .tuple items := by
  cases v <;> cases h <;> simp

theorem Offers.of_items (hitems : v.items? = some items) {item : Value} (hitem : item ∈ items)
    (h : Offers u item) : Offers u v := by
  rcases eq_of_items?_eq_some hitems with rfl | rfl
  · exact .item hitem h
  · exact .member hitem h

theorem Holds.of_items (hitems : v.items? = some items) {item : Value} (hitem : item ∈ items)
    (h : Holds u item) : Holds u v := by
  rcases eq_of_items?_eq_some hitems with rfl | rfl
  · exact .item hitem h
  · exact .member hitem h

theorem Holds.eq_of_parts (hv : v.parts = []) (h : Holds u v) : u = v := by
  cases h with
  | self => rfl
  | item mem => exact absurd hv (List.ne_nil_of_mem mem)
  | member mem => exact absurd hv (List.ne_nil_of_mem mem)
  | @key entries entry mem =>
    exact absurd hv (List.ne_nil_of_mem (List.mem_flatMap.mpr ⟨entry, mem, List.mem_cons_self⟩))
  | @bound entries entry mem =>
    exact absurd hv (List.ne_nil_of_mem (List.mem_flatMap.mpr ⟨entry, mem, .tail _ (.head _)⟩))

/-! ## Small values -/

/-- The integers in a value have fifty-three bits, and the texts four thousand characters. -/
structure Small (v : Value) : Prop where
  integers : ∀ n, Holds (.int n) v → n.natAbs < 2 ^ 53
  texts : ∀ s, Holds (.text s) v → s.length ≤ 4000

theorem small_text {s : String} (h : s.length ≤ 4000) : (Value.text s).Small where
  integers := fun n hn => by cases hn
  texts := fun t ht => by
    cases ht
    exact h

theorem small_int {n : Int} (h : n.natAbs < 2 ^ 53) : (Value.int n).Small where
  integers := fun m hm => by
    cases hm
    exact h
  texts := fun t ht => by cases ht

/-! ## Mild values -/

/-- There is nothing in a value that rules without options have trouble with.  Integers that are
too large for a binary number only matter where there are `floats`. -/
structure Mild (floats : Prop) (v : Value) : Prop where
  named : v.Named
  integers : ∀ n, Holds (.int n) v → n.natAbs < 2 ^ 53
  texts : ∀ s, Offers (.text s) v → ¬ WritesTooLong s ∧ (floats → ¬ WritesTooLarge s)

theorem Small.mild (h : v.Small) (hnamed : v.Named)
    (hlarge : floats → ∀ s, Offers (.text s) v → ¬ WritesTooLarge s) : v.Mild floats where
  named := hnamed
  integers := h.integers
  texts := fun s hs =>
    ⟨Numeric.not_writesTooLong_of_length_le (h.texts s hs.holds), fun hf => hlarge hf s hs⟩

namespace Mild

theorem of_items (h : v.Mild floats) (hitems : v.items? = some items) :
    ∀ item ∈ items, item.Mild floats := fun item hitem =>
  ⟨h.named.of_items hitems item hitem, fun n hn => h.integers n (hn.of_items hitems hitem),
    fun s hs => h.texts s (hs.of_items hitems hitem)⟩

theorem of_entries (h : (Value.dict entries).Mild floats) {entry : Value × Value}
    (hentry : entry ∈ entries) : entry.2.Mild floats :=
  ⟨(h.named.of_entries hentry).2, fun n hn => h.integers n (.bound hentry hn),
    fun s hs => h.texts s (.bound hentry hs)⟩

theorem of_get? {key : Value} (h : (Value.dict entries).Mild floats)
    (hget : Entries.get? key entries = some v) : v.Mild floats := by
  obtain ⟨entry, hentry, rfl⟩ := Entries.exists_mem_of_get? hget
  exact h.of_entries hentry

end Mild

theorem mild_atom (hv : v.parts = []) (hname : v.className ≠ "")
    (hint : ∀ n, v = .int n → n.natAbs < 2 ^ 53) (htext : ∀ s, v = .text s → s.length ≤ 3 * 100) :
    v.Mild floats where
  named := .node hname (by simp [hv])
  integers := fun n hn => hint n (hn.eq_of_parts hv).symm
  texts := fun s hs => by
    have hlength := htext s (hs.holds.eq_of_parts hv).symm
    exact ⟨Numeric.not_writesTooLong_of_length_le (Nat.le_trans hlength (by decide)),
      fun _ => Numeric.not_writesTooLarge_of_length_le hlength⟩

theorem mild_text {s : String} (h : s.length ≤ 3 * 100) : (Value.text s).Mild floats :=
  mild_atom rfl (by simp [className]) (by simp [int]) fun t ht => by cases ht; exact h

theorem mild_int {n : Int} (h : n.natAbs < 2 ^ 53) : (Value.int n).Mild floats :=
  mild_atom rfl (by simp [className, int]) (fun m hm => by cases hm; exact h) (by simp [int])

theorem mild_bool (b : Bool) : (Value.bool b).Mild floats :=
  mild_atom rfl (by simp [className]) (by simp [int]) (by simp)

theorem mild_float (x : Numeric.Binary64) : (Value.number (.float x)).Mild floats :=
  mild_atom rfl (by simp [className]) (by simp [int]) (by simp)

theorem mild_moment (m : Calendar.Moment) : (Value.moment m).Mild floats :=
  mild_atom rfl (by simp [className]) (by simp [int]) (by simp)

theorem mild_null : Value.null.Mild floats :=
  mild_atom rfl (by simp [className]) (by simp [int]) (by simp)

theorem mild_list (h : ∀ item ∈ items, item.Mild floats) : (Value.list items).Mild floats where
  named := .node (by simp [className]) fun item hitem => (h item hitem).named
  integers := fun n hn => by
    cases hn with
    | item mem hn => exact (h _ mem).integers n hn
  texts := fun s hs => by
    cases hs with
    | item mem hs => exact (h _ mem).texts s hs

/-- The keys of a mild dictionary may be texts of any length. -/
theorem mild_dict (hkeys : ∀ entry ∈ entries, ∃ key, entry.1 = .text key)
    (h : ∀ entry ∈ entries, entry.2.Mild floats) : (Value.dict entries).Mild floats where
  named := by
    refine .node (by simp [className]) fun part hpart => ?_
    obtain ⟨entry, hentry, hpart⟩ := List.mem_flatMap.mp hpart
    obtain ⟨key, hkey⟩ := hkeys entry hentry
    rcases List.mem_cons.mp hpart with rfl | hpart
    · rw [hkey]
      exact .node (by simp [className]) (by simp [parts])
    · rw [List.mem_singleton.mp hpart]
      exact (h entry hentry).named
  integers := fun n hn => by
    cases hn with
    | key mem hn =>
      obtain ⟨key, hkey⟩ := hkeys _ mem
      rw [hkey] at hn
      cases hn
    | bound mem hn => exact (h _ mem).integers n hn
  texts := fun s hs => by
    cases hs with
    | bound mem hs => exact (h _ mem).texts s hs

end Intake.Value
