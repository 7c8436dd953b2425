import Intake.Value.Json
import Intake.Proofs.Outcome
import Intake.Proofs.Numeric.Limit
import Intake.Proofs.Value.Equality

/-!
# Values that can be written as JSON

A list can be written if all of its items can, and a dictionary with text as keys if all that it
binds can.  So integers that are too long are all that cannot be written.

## Main definitions

* `Value.Holds` — what lies in a value.
* `Value.TextKeyed` — the values whose dictionaries have text as keys.

## Main statements

* `Value.exists_json_list_iff`, `Value.exists_json_dict_iff` — lists and dictionaries that can be
  written.
* `Value.exists_json_iff` — values that can be written.
* `Value.json_ne_empty` — no value is written as nothing.
* `Value.newline_notMem_json` — the text of a value stands on one line.
-/

namespace Intake.Value

theorem jsonItems_eq_mapM (items : List Value) : jsonItems items = items.mapM json := by
  induction items with
  | nil => rfl
  | cons item items ih => rw [jsonItems, ih, List.mapM_cons]

/-- A tuple is written as a list. -/
theorem json_tuple (items : List Value) : (Value.tuple items).json = (Value.list items).json := by
  rw [json, json]

/-- A list can be written if all of its items can. -/
theorem exists_json_list_iff {items : List Value} :
    (∃ text, (Value.list items).json = .ok text) ↔ ∃ texts, items.mapM json = .ok texts := by
  rw [json, jsonItems_eq_mapM]
  cases items.mapM json <;> simp

/-- A list of texts can be written. -/
theorem exists_json_of_texts {items : List Value} (h : ∀ item ∈ items, ∃ s, item = .text s) :
    ∃ text, (Value.list items).json = .ok text := by
  obtain ⟨texts, htexts, -⟩ := Outcome.exists_mapM_eq_ok (P := fun _ => True) (f := json)
    fun item hitem => by
      obtain ⟨s, rfl⟩ := h item hitem
      exact ⟨_, rfl, trivial⟩
  exact exists_json_list_iff.mpr ⟨texts, htexts⟩

theorem json_number_eq_error_iff {n : Numeric.Number} :
    (∃ fault, (Value.number n).json = .error fault) ↔ n.Unwritable := by
  rw [json, numberJson, Outcome.exists_mapError_eq_error, Numeric.Number.writeJson_eq_error_iff]

/-! ## What a value holds -/

/-- A value is another one or lies in it. -/
inductive Holds (u : Value) : Value → Prop
  | self : Holds u u
  | item {items : List Value} {v : Value} (mem : v ∈ items) (holds : Holds u v) :
      Holds u (.list items)
  | member {items : List Value} {v : Value} (mem : v ∈ items) (holds : Holds u v) :
      Holds u (.tuple items)
  | key {entries : List (Value × Value)} {entry : Value × Value} (mem : entry ∈ entries)
      (holds : Holds u entry.1) : Holds u (.dict entries)
  | bound {entries : List (Value × Value)} {entry : Value × Value} (mem : entry ∈ entries)
      (holds : Holds u entry.2) : Holds u (.dict entries)

/-- All dictionaries in a value have text as keys. -/
def TextKeyed (v : Value) : Prop :=
  ∀ entries, Holds (.dict entries) v → ∀ entry ∈ entries, ∃ key, entry.1 = .text key

namespace TextKeyed

variable {items : List Value} {entries : List (Value × Value)} {v : Value}

theorem item (h : (Value.list items).TextKeyed) (hv : v ∈ items) : v.TextKeyed :=
  fun inner hholds => h inner (.item hv hholds)

theorem member (h : (Value.tuple items).TextKeyed) (hv : v ∈ items) : v.TextKeyed :=
  fun inner hholds => h inner (.member hv hholds)

theorem bound (h : (Value.dict entries).TextKeyed) {entry : Value × Value}
    (hentry : entry ∈ entries) : entry.2.TextKeyed :=
  fun inner hholds => h inner (.bound hentry hholds)

end TextKeyed

/-- There is an integer in a value that is not written. -/
def HoldsTooLong (v : Value) : Prop :=
  ∃ n, Numeric.TooLong n ∧ Holds (.number (.int n)) v

theorem jsonEntries_eq_mapM (entries : List (Value × Value)) :
    jsonEntries entries = entries.mapM fun entry => do
      return Text.quoteJson (← jsonKey entry.1) ++ ":" ++ (← json entry.2) := by
  induction entries with
  | nil => rfl
  | cons entry entries ih =>
    obtain ⟨key, v⟩ := entry
    rw [jsonEntries, ih, List.mapM_cons]
    simp only [bind_assoc, pure_bind]

/-- A dictionary with text as keys can be written if all that it binds can. -/
theorem exists_json_dict_iff {entries : List (Value × Value)}
    (hkeys : ∀ entry ∈ entries, ∃ key, entry.1 = .text key) :
    (∃ text, (Value.dict entries).json = .ok text) ↔
      ∀ entry ∈ entries, ∃ text, entry.2.json = .ok text := by
  have hentry : ∀ entry ∈ entries,
      ((∃ text, (do return Text.quoteJson (← jsonKey entry.1) ++ ":" ++ (← json entry.2) :
        Except Fault String) = .ok text) ↔ ∃ text, entry.2.json = .ok text) := by
    intro entry hmem
    obtain ⟨key, hkey⟩ := hkeys entry hmem
    rw [hkey, jsonKey]
    cases entry.2.json <;> simp
  rw [← forall₂_congr hentry, ← Outcome.exists_mapM_eq_ok_iff, ← jsonEntries_eq_mapM, json]
  cases jsonEntries entries <;> simp

theorem not_holdsTooLong_list {items : List Value} :
    ¬ (Value.list items).HoldsTooLong ↔ ∀ v ∈ items, ¬ v.HoldsTooLong := by
  constructor
  · rintro h v hv ⟨n, hlong, hholds⟩
    exact h ⟨n, hlong, .item hv hholds⟩
  · rintro h ⟨n, hlong, hholds⟩
    cases hholds with
    | item hv hholds => exact h _ hv ⟨n, hlong, hholds⟩

theorem not_holdsTooLong_tuple {items : List Value} :
    ¬ (Value.tuple items).HoldsTooLong ↔ ∀ v ∈ items, ¬ v.HoldsTooLong := by
  constructor
  · rintro h v hv ⟨n, hlong, hholds⟩
    exact h ⟨n, hlong, .member hv hholds⟩
  · rintro h ⟨n, hlong, hholds⟩
    cases hholds with
    | member hv hholds => exact h _ hv ⟨n, hlong, hholds⟩

theorem not_holdsTooLong_dict {entries : List (Value × Value)}
    (hkeys : ∀ entry ∈ entries, ∃ key, entry.1 = .text key) :
    ¬ (Value.dict entries).HoldsTooLong ↔ ∀ entry ∈ entries, ¬ entry.2.HoldsTooLong := by
  constructor
  · rintro h entry hentry ⟨n, hlong, hholds⟩
    exact h ⟨n, hlong, .bound hentry hholds⟩
  · rintro h ⟨n, hlong, hholds⟩
    cases hholds with
    | key hentry hholds =>
      obtain ⟨key, hkey⟩ := hkeys _ hentry
      rw [hkey] at hholds
      cases hholds
    | bound hentry hholds => exact h _ hentry ⟨n, hlong, hholds⟩

/-- A value whose dictionaries have text as keys can be written unless it holds an integer that is
too long. -/
theorem exists_json_iff {v : Value} (h : v.TextKeyed) :
    (∃ text, v.json = .ok text) ↔ ¬ v.HoldsTooLong := by
  induction v using Value.induction with
  | number n =>
    have hjson : (∃ text, (Value.number n).json = .ok text) ↔ ¬ n.Unwritable := by
      rw [← json_number_eq_error_iff]
      cases (Value.number n).json <;> simp
    rw [hjson, not_iff_not]
    constructor
    · rintro ⟨i, rfl, hlong⟩
      exact ⟨i, hlong, .self⟩
    · rintro ⟨i, hlong, hholds⟩
      cases hholds
      exact Numeric.Number.unwritable_int.mpr hlong
  | list items ih =>
    rw [exists_json_list_iff, Outcome.exists_mapM_eq_ok_iff, not_holdsTooLong_list]
    exact forall₂_congr fun v hv => ih v hv (h.item hv)
  | tuple items ih =>
    rw [json_tuple, exists_json_list_iff, Outcome.exists_mapM_eq_ok_iff, not_holdsTooLong_tuple]
    exact forall₂_congr fun v hv => ih v hv (h.member hv)
  | dict entries ih =>
    have hkeys := h entries .self
    rw [exists_json_dict_iff hkeys, not_holdsTooLong_dict hkeys]
    exact forall₂_congr fun entry hentry => (ih entry hentry).2 (h.bound hentry)
  | null | undefined | bool b | text s | moment m | day d | pattern p | foreign name n =>
    refine iff_of_true ⟨_, rfl⟩ ?_
    rintro ⟨n, -, hholds⟩
    cases hholds

/-! ## What is written -/

theorem quoteJson_ne_empty (s : String) : Text.quoteJson s ≠ "" := by
  intro h
  have := congrArg String.toList h
  simp [Text.quoteJson] at this

/-- No value is written as nothing. -/
theorem json_ne_empty {v : Value} {text : String} (h : v.json = .ok text) : text ≠ "" := by
  have hfixed : ∀ {s : String}, s ≠ "" → (.ok s : Except Fault String) = .ok text → text ≠ "" := by
    intro s hs h
    exact Except.ok.inj h ▸ hs
  cases v with
  | number n =>
    rw [json, numberJson] at h
    cases hn : n.writeJson with
    | ok s =>
      rw [hn] at h
      exact hfixed (Numeric.Number.ne_empty_of_writeJson hn) h
    | error e => simp [hn] at h
  | list items | tuple items | dict entries =>
    obtain ⟨texts, -, hwritten⟩ := Outcome.bind_eq_ok.mp h
    cases hwritten
    simp
  | null | undefined => exact hfixed (by decide) h
  | bool b => exact hfixed (by cases b <;> decide) h
  | text s | moment m | day d | pattern p | foreign name n =>
    exact hfixed (quoteJson_ne_empty _) h

/-! ## On one line -/

theorem newline_notMem_hexDigits (width n : Nat) : '\n' ∉ Text.hexDigits width n := by
  have hdigit : ∀ d < 16, Text.hexDigit d ≠ '\n' := by decide
  induction width generalizing n with
  | zero => simp [Text.hexDigits]
  | succ width ih =>
    have := hdigit (n % 16) (Nat.mod_lt _ (by decide))
    simp [Text.hexDigits, ih, this.symm]

theorem newline_notMem_escapeJson (c : Char) : '\n' ∉ Text.escapeJson c := by
  have := newline_notMem_hexDigits 4 c.toNat
  grind [Text.escapeJson]

/-- A JSON string stands on one line. -/
theorem newline_notMem_quoteJson (s : String) : '\n' ∉ (Text.quoteJson s).toList := by
  simp [Text.quoteJson, newline_notMem_escapeJson]

theorem notMem_joinWith {c : Char} {separator : String} {texts : List String}
    (hseparator : c ∉ separator.toList) (htexts : ∀ text ∈ texts, c ∉ text.toList) :
    c ∉ (joinWith separator texts).toList := by
  induction texts with
  | nil => simp [joinWith]
  | cons text texts ih =>
    obtain ⟨hhead, hrest⟩ := List.forall_mem_cons.mp htexts
    cases texts with
    | nil => simpa [joinWith] using hhead
    | cons next texts =>
      have := ih hrest
      simp only [joinWith, String.intercalate_cons_cons, String.toList_append, List.mem_append] at *
      grind

theorem newline_notMem_numberJson {n : Numeric.Number} {text : String}
    (h : numberJson n = .ok text) : '\n' ∉ text.toList := by
  intro hmem
  cases hn : n.writeJson with
  | ok s =>
    rw [numberJson, hn] at h
    obtain rfl := Except.ok.inj h
    exact absurd (Numeric.Number.not_isBlank_of_writeJson hn hmem) (by decide)
  | error e => simp [numberJson, hn] at h

/-- JSON text stands on one line. -/
theorem newline_notMem_json {v : Value} {text : String} (h : v.json = .ok text) :
    '\n' ∉ text.toList := by
  induction v using Value.induction generalizing text with
  | number n => exact newline_notMem_numberJson h
  | list items ih | tuple items ih =>
    obtain ⟨texts, htexts, h⟩ := Outcome.bind_eq_ok.mp h
    obtain rfl := Except.ok.inj h
    rw [jsonItems_eq_mapM] at htexts
    have hjoined : '\n' ∉ (joinWith "," texts).toList := by
      refine notMem_joinWith (by decide) fun text htext => ?_
      obtain ⟨item, hitem, hjson⟩ := Outcome.exists_of_mem_mapM htexts htext
      exact ih item hitem hjson
    simp [hjoined]
  | dict entries ih =>
    obtain ⟨texts, htexts, h⟩ := Outcome.bind_eq_ok.mp h
    obtain rfl := Except.ok.inj h
    rw [jsonEntries_eq_mapM] at htexts
    have hjoined : '\n' ∉ (joinWith "," texts).toList := by
      refine notMem_joinWith (by decide) fun text htext => ?_
      obtain ⟨entry, hentry, hjson⟩ := Outcome.exists_of_mem_mapM htexts htext
      obtain ⟨key, -, hjson⟩ := Outcome.bind_eq_ok.mp hjson
      obtain ⟨bound, hbound, hjson⟩ := Outcome.bind_eq_ok.mp hjson
      obtain rfl := Except.ok.inj hjson
      simp [newline_notMem_quoteJson, (ih entry hentry).2 hbound]
    simp [hjoined]
  | null | undefined =>
    obtain rfl := Except.ok.inj h
    decide
  | bool b =>
    obtain rfl := Except.ok.inj h
    cases b <;> decide
  | text s | moment m | day d | pattern p | foreign name n =>
    obtain rfl := Except.ok.inj h
    exact newline_notMem_quoteJson _

end Intake.Value
