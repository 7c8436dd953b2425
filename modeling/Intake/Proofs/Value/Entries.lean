import Intake.Value.Entries

/-!
# Dictionaries without repeated keys

Putting entries into a dictionary one after the other never repeats a key, so a dictionary that is
built again from its own entries stays as it is.

## Main definitions

* `Entries.Distinct` — no key is the same as one before it.

## Main statements

* `Entries.distinct_put`, `Entries.distinct_ofList` — insertion keeps keys distinct.
* `Entries.put_of_forall` — a new key goes to the end.
* `Entries.ofList_of_distinct` — a dictionary is built again from its own entries.
-/

namespace Intake.Entries

variable {α : Type} {entries : Entries α} {key : Value} {a : α}

/-- No key is the same as one before it. -/
def Distinct (entries : Entries α) : Prop :=
  (entries.map Prod.fst).Pairwise fun k l => k.sameKey l = false

@[simp] theorem distinct_nil : Distinct ([] : Entries α) := List.Pairwise.nil

theorem distinct_cons {entry : Value × α} : Distinct (entry :: entries) ↔
    (∀ e ∈ entries, entry.1.sameKey e.1 = false) ∧ Distinct entries := by
  simp [Distinct]

/-- Look-up passes over the keys that are not the same. -/
theorem get?_of_forall (h : ∀ e ∈ entries, e.1.sameKey key = false) : get? key entries = none := by
  induction entries with
  | nil => rfl
  | cons e rest ih =>
    rw [get?, h e List.mem_cons_self]
    exact ih fun e he => h e (List.mem_cons_of_mem _ he)

/-- Look-up finds what stands under the same key. -/
theorem exists_sameKey_of_get? (h : get? key entries = some a) :
    ∃ e ∈ entries, e.1.sameKey key = true ∧ e.2 = a := by
  induction entries with
  | nil => cases h
  | cons e rest ih =>
    rw [get?] at h
    split at h
    · rename_i hsame
      exact ⟨e, List.mem_cons_self, hsame, Option.some.inj h⟩
    · obtain ⟨e', he', hsame, heq⟩ := ih h
      exact ⟨e', List.mem_cons_of_mem _ he', hsame, heq⟩

theorem exists_mem_of_get? (h : get? key entries = some a) : ∃ e ∈ entries, e.2 = a := by
  obtain ⟨e, he, -, heq⟩ := exists_sameKey_of_get? h
  exact ⟨e, he, heq⟩

/-- A key that is not there yet goes to the end. -/
theorem put_of_forall (h : ∀ e ∈ entries, e.1.sameKey key = false) :
    entries.put key a = entries ++ [(key, a)] := by
  induction entries with
  | nil => rfl
  | cons e rest ih =>
    rw [put, h e List.mem_cons_self, ih fun e he => h e (List.mem_cons_of_mem _ he)]
    rfl

/-- Insertion leaves the keys as they are, or adds the new one at the end. -/
theorem map_fst_put : (entries.put key a).map Prod.fst =
    if entries.any (·.1.sameKey key) then entries.map Prod.fst
    else entries.map Prod.fst ++ [key] := by
  induction entries with
  | nil => rfl
  | cons e rest ih =>
    obtain ⟨k, b⟩ := e
    cases h : k.sameKey key
    · simp only [put, h, Bool.false_eq_true, if_false, List.map_cons, ih, List.any_cons,
        Bool.false_or]
      split <;> rfl
    · simp [put, h]

/-- What holds of all entries and of a new one holds after insertion; a key that stays keeps what
holds of it. -/
theorem forall_put {P : Value → Prop} {Q : α → Prop} (h : ∀ e ∈ entries, P e.1 ∧ Q e.2)
    (hkey : P key) (ha : Q a) : ∀ e ∈ entries.put key a, P e.1 ∧ Q e.2 := by
  induction entries with
  | nil => simpa [put] using ⟨hkey, ha⟩
  | cons e rest ih =>
    obtain ⟨k, b⟩ := e
    have hhead := h (k, b) List.mem_cons_self
    have htail := fun e he => h e (List.mem_cons_of_mem _ he)
    rw [put]
    split <;> intro e he <;> rcases List.mem_cons.mp he with rfl | he
    · exact ⟨hhead.1, ha⟩
    · exact htail e he
    · exact hhead
    · exact ih htail e he

/-- What holds of all of some entries holds of the dictionary that is built from them. -/
theorem forall_ofList {entries : List (Value × α)} {P : Value → Prop} {Q : α → Prop}
    (h : ∀ e ∈ entries, P e.1 ∧ Q e.2) : ∀ e ∈ ofList entries, P e.1 ∧ Q e.2 := by
  suffices ∀ built : Entries α, (∀ e ∈ built, P e.1 ∧ Q e.2) →
      ∀ e ∈ entries.foldl (fun built entry => built.put entry.1 entry.2) built, P e.1 ∧ Q e.2 from
    this [] (by simp)
  induction entries with
  | nil => exact fun _ h => h
  | cons e rest ih =>
    obtain ⟨hhead, htail⟩ := List.forall_mem_cons.mp h
    exact fun built hbuilt => ih htail _ (forall_put hbuilt hhead.1 hhead.2)

theorem distinct_put (h : Distinct entries) (key : Value) (a : α) :
    Distinct (entries.put key a) := by
  rw [Distinct] at h ⊢
  rw [map_fst_put]
  split
  · exact h
  · rename_i hnew
    refine List.pairwise_append.mpr ⟨h, List.pairwise_singleton _ _, fun k hk l hl => ?_⟩
    rw [List.mem_singleton.mp hl]
    obtain ⟨e, he, rfl⟩ := List.mem_map.mp hk
    exact Bool.eq_false_iff.mpr fun hsame => hnew (List.any_eq_true.mpr ⟨e, he, hsame⟩)

/-- A dictionary that is built from a list of entries repeats no key. -/
theorem distinct_ofList (entries : List (Value × α)) : Distinct (ofList entries) := by
  suffices ∀ built : Entries α, Distinct built →
      Distinct (entries.foldl (fun built entry => built.put entry.1 entry.2) built) from
    this [] distinct_nil
  induction entries with
  | nil => exact fun _ h => h
  | cons e rest ih => exact fun built h => ih _ (distinct_put h e.1 e.2)

/-- A dictionary that is built again from its own entries stays as it is. -/
theorem ofList_of_distinct (h : Distinct entries) : ofList entries = entries := by
  suffices ∀ built : Entries α, Distinct (built ++ entries) →
      entries.foldl (fun built entry => built.put entry.1 entry.2) built = built ++ entries from
    this [] h
  induction entries with
  | nil => simp
  | cons e rest ih =>
    intro built hbuilt
    have hnew : ∀ b ∈ built, b.1.sameKey e.1 = false := by
      rw [Distinct, List.map_append, List.pairwise_append] at hbuilt
      exact fun b hb => hbuilt.2.2 _ (List.mem_map_of_mem hb) _ List.mem_cons_self
    rw [List.foldl_cons, put_of_forall hnew, ih (distinct_cons.mp h).2 _ (by simpa using hbuilt)]
    simp

end Intake.Entries
