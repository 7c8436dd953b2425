import Intake.Proofs.Schema.Nodes
import Intake.Proofs.Value.Merging

/-!
# Dictionaries that merge entries

A dictionary parses its keys, so that different keys of an input may come to the same key.  The
entries with that key are merged, and nothing is rejected for it.

## Main statements

* `parseEntries_eq_ok_iff` — the entries are parsed one by one and put in one after the other.
* `Schema.parse_dict_merges` — what is left of the entries of an input.
-/

namespace Intake

/-! ## Entries -/

section Entries

variable {parseKey parseValue : Value → Outcome Value} {entries built out : List (Value × Value)}

/-- The entries that those of an input are parsed to, one by one. -/
def EntriesParse (parseKey parseValue : Value → Outcome Value)
    (entries pairs : List (Value × Value)) : Prop :=
  List.Forall₂ (fun entry pair => parseKey entry.1 = .ok pair.1 ∧ parseValue entry.2 = .ok pair.2)
    entries pairs

/-- The entries are parsed one by one, and put into what there is one after the other. -/
theorem parseEntries_eq_ok_iff_foldl :
    parseEntries parseKey parseValue entries built = .ok out ↔
      ∃ pairs, EntriesParse parseKey parseValue entries pairs ∧
        (∀ pair ∈ pairs, pair.1.isHashable = true) ∧
        pairs.foldl (fun built pair => Entries.put pair.1 pair.2 built) built = out := by
  induction entries generalizing built with
  | nil => simp [parseEntries, EntriesParse]
  | cons entry entries ih =>
    obtain ⟨key, value⟩ := entry
    rw [parseEntries_cons_eq_ok]
    constructor
    · intro h
      obtain ⟨k, v, hk, hv, hhash, h⟩ := h
      obtain ⟨pairs, hpairs, hkeys, hout⟩ := ih.mp h
      exact ⟨(k, v) :: pairs, .cons ⟨hk, hv⟩ hpairs, List.forall_mem_cons.mpr ⟨hhash, hkeys⟩, hout⟩
    · intro h
      obtain ⟨pairs, hpairs, hkeys, hout⟩ := h
      cases hpairs with
      | @cons _ pair _ pairs hpair hpairs =>
        rw [List.forall_mem_cons] at hkeys
        exact ⟨pair.1, pair.2, hpair.1, hpair.2, hkeys.1, ih.mpr ⟨pairs, hpairs, hkeys.2, hout⟩⟩

theorem parseEntries_eq_ok_iff : parseEntries parseKey parseValue entries [] = .ok out ↔
    ∃ pairs, EntriesParse parseKey parseValue entries pairs ∧
      (∀ pair ∈ pairs, pair.1.isHashable = true) ∧ Entries.ofList pairs = out :=
  parseEntries_eq_ok_iff_foldl

end Entries

/-! ## Dictionaries -/

namespace Schema

variable {setting : Setting} {key value : Schema} {samples : Option SampleOptions} {ctx : Context}

/-- A dictionary parses the entries of an input one by one, and merges those whose keys come to the
same key.  That is no reason to reject the input: all that is asked of the entries is that each of
them can be parsed, to something that can be a key. -/
theorem parse_dict_merges (entries : List (Value × Value)) (hctx : ctx.Plain) :
    ∃ keyContext valueContext,
      ctx.entrySide (ctx.expected "dict/record") "in key" = .ok keyContext ∧
      ctx.entrySide (ctx.expected "dict/record") "in value" = .ok valueContext ∧
      (∀ w, (dict key value samples).parse setting (.dict entries) ctx = .ok w → ∃ pairs out,
        EntriesParse (key.parse setting · keyContext) (value.parse setting · valueContext)
          entries pairs ∧ (∀ pair ∈ pairs, pair.1.isHashable = true) ∧
        w = .dict out ∧ Entries.Merges pairs out) ∧
      ∀ pairs, EntriesParse (key.parse setting · keyContext) (value.parse setting · valueContext)
        entries pairs → (∀ pair ∈ pairs, pair.1.isHashable = true) →
        ∃ out, (dict key value samples).parse setting (.dict entries) ctx = .ok (.dict out) ∧
          Entries.Merges pairs out := by
  have htype := hctx.isPhrase_expected "dict/record"
  obtain ⟨keyContext, hkey, -⟩ := hctx.entrySide htype "in key"
  obtain ⟨valueContext, hvalue, -⟩ := hctx.entrySide htype "in value"
  refine ⟨keyContext, valueContext, hkey, hvalue, ?_, ?_⟩
  · intro w h
    obtain ⟨_, keyContext', valueContext', out, hentries, hkey', hvalue', hparse, rfl⟩ :=
      parse_dict_eq_ok.mp h
    cases hentries
    cases hkey.symm.trans hkey'
    cases hvalue.symm.trans hvalue'
    obtain ⟨pairs, hpairs, hkeys, rfl⟩ := parseEntries_eq_ok_iff.mp hparse
    exact ⟨pairs, _, hpairs, hkeys, rfl, Entries.merges_ofList hkeys⟩
  · intro pairs hpairs hkeys
    have hparse : parseEntries (key.parse setting · keyContext) (value.parse setting · valueContext)
        entries [] = .ok (Entries.ofList pairs) :=
      parseEntries_eq_ok_iff.mpr ⟨pairs, hpairs, hkeys, rfl⟩
    exact ⟨_, parse_dict_eq_ok.mpr ⟨_, _, _, _, rfl, hkey, hvalue, hparse, rfl⟩,
      Entries.merges_ofList hkeys⟩

/-- Counts by name. -/
def tally : Schema :=
  .dict (.leaf (.string {}) none) (.leaf (.int {}) none) none

/-- Counts of which two have the same name but for a blank. -/
def paddedCounts : List (Value × Value) :=
  [(.text "a", .int 1), (.text "b", .int 2), (.text " a", .text "3")]

theorem parse_dict_merges_paddedCounts :
    ∃ out, tally.parse "en" (.dict paddedCounts) .root = .ok (.dict out) ∧
      Entries.Merges [(.text "a", .int 1), (.text "b", .int 2), (.text "a", .int 3)] out := by
  obtain ⟨keyContext, valueContext, hkey, hvalue, -, haccepts⟩ :=
    @parse_dict_merges "en" (.leaf (.string {}) none) (.leaf (.int {}) none) none .root
      paddedCounts Context.plain_root
  cases hkey
  cases hvalue
  refine haccepts _ (.cons ⟨rfl, rfl⟩ (.cons ⟨rfl, rfl⟩ (.cons ⟨rfl, rfl⟩ .nil))) ?_
  decide

/-- Not all dictionaries that are accepted keep as many entries as came in. -/
theorem not_forall_parse_dict_length :
    ¬ ∀ (key value : Schema) (samples : Option SampleOptions) (entries : List (Value × Value))
      (w : Value), (dict key value samples).parse "en" (.dict entries) .root = .ok w →
      ∃ out, w = .dict out ∧ out.length = entries.length := by
  intro hall
  have hparse : tally.parse "en" (.dict [(.text "a", .int 1), (.text " a", .int 2)]) .root =
      .ok (.dict [(.text "a", .int 2)]) := rfl
  obtain ⟨out, hout, hlength⟩ := hall _ _ _ _ _ hparse
  cases hout
  cases hlength

end Schema

end Intake
