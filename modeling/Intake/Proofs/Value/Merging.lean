import Intake.Proofs.Value.Entries
import Intake.Proofs.Value.Equality
import Mathlib.Data.List.Induction

/-!
# Entries with the same key

Where entries with the same key are put into a dictionary one after the other, one entry is left of
them: in the place of the first of them and with its key, but with the value of the last.

## Main definitions

* `Entries.Merges` — what is left of a list of entries.

## Main statements

* `Entries.map_fst_ofList` — the keys are the first ones.
* `Entries.get?_ofList` — the values are the last ones.
* `Entries.merges_ofList` — a dictionary that is built from a list of entries.
-/

namespace Intake.Entries

variable {α : Type} {entries pairs : List (Value × α)} {built : Entries α} {key k : Value} {a : α}

/-! ## Building a dictionary -/

@[simp] theorem ofList_nil : ofList ([] : List (Value × α)) = [] := rfl

/-- The last entry of a list is put in last. -/
theorem ofList_concat (entries : List (Value × α)) (entry : Value × α) :
    ofList (entries ++ [entry]) = (ofList entries).put entry.1 entry.2 := by
  rw [ofList, List.foldl_append, List.foldl_cons, List.foldl_nil, ofList]

/-! ## Keys -/

/-- Each key stays in the place where it came up first. -/
theorem map_fst_ofList (pairs : List (Value × α)) : (ofList pairs).map Prod.fst =
    (pairs.map Prod.fst).eraseDupsBy fun later first => first.sameKey later := by
  suffices ∀ built : Entries α,
      (pairs.foldl (fun built pair => built.put pair.1 pair.2) built).map Prod.fst =
        List.eraseDupsBy.loop (fun later first => first.sameKey later) (pairs.map Prod.fst)
          (built.map Prod.fst).reverse from this []
  induction pairs with
  | nil => simp [List.eraseDupsBy.loop]
  | cons pair pairs ih =>
    intro built
    rw [List.foldl_cons, ih, map_fst_put, List.map_cons, List.eraseDupsBy.loop, List.any_reverse,
      List.any_map]
    simp only [Function.comp_def]
    by_cases hsame : built.any (·.1.sameKey pair.1) = true
    · simp [hsame]
    · simp [hsame]

/-- No key is new, and none changes its place. -/
theorem map_fst_ofList_sublist (pairs : List (Value × α)) :
    ((ofList pairs).map Prod.fst).Sublist (pairs.map Prod.fst) := by
  induction pairs using List.reverseRecOn with
  | nil => exact .slnil
  | append_singleton pairs pair ih =>
    rw [ofList_concat, map_fst_put, List.map_append, List.map_singleton]
    by_cases hsame : (ofList pairs).any (·.1.sameKey pair.1) = true
    · rw [if_pos hsame]
      exact ih.trans (List.sublist_append_left _ _)
    · rw [if_neg hsame]
      exact ih.append (List.Sublist.refl _)

/-- No entry is lost only where no key is the same as one before it. -/
theorem length_ofList_eq_iff : (ofList pairs).length = pairs.length ↔ Distinct pairs := by
  constructor
  · intro hlength
    have hkeys : (ofList pairs).map Prod.fst = pairs.map Prod.fst :=
      (map_fst_ofList_sublist pairs).eq_of_length (by simpa using hlength)
    have hdistinct := distinct_ofList pairs
    rwa [Distinct, hkeys] at hdistinct
  · intro hdistinct
    rw [ofList_of_distinct hdistinct]

/-! ## Values -/

/-- A key is bound to what was put in for it, and so are the keys that are the same. -/
theorem get?_put (hkey : key.isHashable = true) :
    get? k (built.put key a) = if key.sameKey k then some a else get? k built := by
  induction built with
  | nil => rfl
  | cons entry built ih =>
    obtain ⟨l, b⟩ := entry
    rw [put]
    by_cases hl : l.sameKey key = true
    · -- the key that stays is looked up by the same keys as the one that was put in
      have hsame : l.sameKey k = key.sameKey k := by
        refine Bool.eq_iff_iff.mpr ⟨fun hk => ?_, Value.sameKey_trans hl⟩
        rw [← Value.sameKey_comm hkey] at hl
        exact Value.sameKey_trans hl hk
      rw [if_pos hl, get?, get?, hsame]
      by_cases hk : key.sameKey k = true
      · rw [if_pos hk, if_pos hk]
      · rw [if_neg hk, if_neg hk, if_neg hk]
    · rw [if_neg hl, get?, get?, ih]
      by_cases hk : l.sameKey k = true
      · have hkey : key.sameKey k = false := by
          refine Bool.eq_false_iff.mpr fun hkey' => hl ?_
          rw [Value.sameKey_comm hkey] at hkey'
          exact Value.sameKey_trans hk hkey'
        simp [hk, hkey]
      · simp [hk]

/-- Look-up in a dictionary finds the last value that was put in for the key. -/
theorem get?_ofList (hkeys : ∀ pair ∈ pairs, pair.1.isHashable = true) (k : Value) :
    get? k (ofList pairs) = get? k pairs.reverse := by
  induction pairs using List.reverseRecOn with
  | nil => rfl
  | append_singleton pairs pair ih =>
    rw [ofList_concat, get?_put (hkeys pair (by simp)),
      ih fun e he => hkeys e (List.mem_append_left _ he), List.reverse_concat, get?]

/-! ## Merging -/

/-- What is left of a list of entries where those with the same key are merged: the first key of
each kind in its place, with the last value.  No entry is lost, and then all stay as they are, only
where no key is the same as one before it. -/
structure Merges (pairs out : List (Value × α)) : Prop where
  keys : out.map Prod.fst =
    (pairs.map Prod.fst).eraseDupsBy fun later first => first.sameKey later
  values : ∀ k, get? k out = get? k pairs.reverse
  length_eq_iff : out.length = pairs.length ↔ Distinct pairs
  eq_of_distinct : Distinct pairs → out = pairs

theorem merges_ofList (hkeys : ∀ pair ∈ pairs, pair.1.isHashable = true) :
    Merges pairs (ofList pairs) :=
  ⟨map_fst_ofList pairs, get?_ofList hkeys, length_ofList_eq_iff, ofList_of_distinct⟩

end Intake.Entries
