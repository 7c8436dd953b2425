import Intake.Proofs.Schema.Projection

/-!
# Where a part of an input fails

An input is parsed part by part, and the first part that fails ends the parse.  So a failure of the
whole is told by the parts before that one, which all come out, and by what it fails with.  Only a
union goes on after a rejection.

## Main statements

* `Schema.parseFields_eq_error` — the field that fails or is missing.
* `parseEntries_eq_error` — the key or the value that fails.
* `Schema.parseFirst_eq_faulted` — the candidate that faults after others have rejected.
* `Schema.exists_candidate_of_mem` — the rejections of a union are those of its candidates.
-/

namespace Intake

open Outcome (bind_eq_ok bind_eq_error ofFault_eq_ok)

/-! ## Fields -/

namespace Schema

variable {setting : Setting} {ctx : Context} {fields : List (Value × Schema)}
  {entries : List (Value × Value)} {e : Failure}

/-- A field fails by itself: it is given and rejected or worse, or it is missing. -/
def FieldFails (setting : Setting) (entries : List (Value × Value)) (ctx : Context) (e : Failure)
    (field : Value × Schema) : Prop :=
  (∃ v inner, Presence.of field.2.tag (Entries.get? field.1 entries) = .given v ∧
    ctx.child field.1 = .ok inner ∧ field.2.parse setting v inner = .error e) ∨
  Presence.of field.2.tag (Entries.get? field.1 entries) = .missing ∧
    ∃ name, field.1.json = .ok name ∧
      (ctx.reject (ctx.expected "object") ("missing " ++ name) : Outcome Unit) = .error e

theorem reject_eq_error_iff {α β : Type} {type : Value} {reason : String} {es : List Rejection} :
    (ctx.reject type reason es : Outcome α) = .error e ↔
      (ctx.reject type reason es : Outcome β) = .error e := by
  simp only [Context.reject, Context.rejectAs]
  simp [bind_eq_error]

/-- A field whose key is text fails by itself where it breaks. -/
theorem fieldFails_iff_fieldBreaks (hctx : ctx.Plain) {key : String} {s : Schema}
    (hs : s.require = .ok ()) : FieldFails setting entries ctx e (.text key, s) ↔
      FieldBreaks setting ctx entries (.text key, s) e := by
  obtain ⟨inner, hinner, -⟩ := hctx.child key
  have hchild : ∀ v, parseChild setting ctx (.text key, s) v = s.parse setting v inner := by
    intro v
    simp only [parseChild, hs, hinner, Outcome.ofFault_ok, Outcome.ok_bind]
  have hgiven : ∀ v, Presence.of s.tag (Entries.get? (.text key) entries) = .given v ↔
      Entries.get? (.text key) entries = some v ∧ leavesOut entries (.text key, s) = false := by
    intro v
    rw [Presence.of_eq_given, leavesOut]
    refine and_congr_right fun hget => ?_
    rw [hget, Option.all_some]
  constructor
  · rintro (⟨v, _, hpresence, hinner', h⟩ | ⟨hmissing, name, ⟨⟩, h⟩)
    · obtain ⟨hget, hkept⟩ := (hgiven v).mp hpresence
      cases hinner.symm.trans hinner'
      exact .failed hget hkept ((hchild v).trans h)
    · obtain ⟨hget, htag⟩ := Presence.of_eq_missing.mp hmissing
      exact .missing rfl hget htag (reject_eq_error_iff.mp h)
  · rintro (⟨⟨⟩, habsent, htag, h⟩ | ⟨hget, hkept, h⟩)
    · exact .inr ⟨Presence.of_eq_missing.mpr ⟨habsent, htag⟩, _, rfl, reject_eq_error_iff.mp h⟩
    · exact .inl ⟨_, inner, (hgiven _).mpr ⟨hget, hkept⟩, hinner, (hchild _).symm.trans h⟩

/-- An object fails by a field that fails after those before it have passed. -/
theorem parseFields_eq_error (hctx : ctx.Plain)
    (hfields : ∀ field ∈ fields, (∃ key, field.1 = .text key) ∧ field.2.require = .ok ()) :
    parseFields setting fields entries ctx = .error e ↔
      ∃ before field after kept, fields = before ++ field :: after ∧
        parseFields setting before entries ctx = .ok kept ∧
        FieldFails setting entries ctx e field := by
  have hkeys : ∀ field ∈ fields, ∃ key, field.1 = .text key := fun field hfield =>
    (hfields field hfield).1
  rw [parseFields_eq_error_iff hkeys]
  constructor
  · rintro ⟨before, field, after, rfl, hpasses, hbreaks⟩
    obtain ⟨hkey, hs⟩ := hfields field (by simp)
    obtain ⟨kept, hkept⟩ := (forall_not_fieldBreaks_iff fun earlier hearlier =>
      hkeys earlier (by simp [hearlier])).mp hpasses
    obtain ⟨_, s⟩ := field
    obtain ⟨key, rfl⟩ := hkey
    exact ⟨before, _, after, kept, rfl, hkept, (fieldFails_iff_fieldBreaks hctx hs).mpr hbreaks⟩
  · rintro ⟨before, field, after, kept, rfl, hkept, hfails⟩
    obtain ⟨hkey, hs⟩ := hfields field (by simp)
    obtain ⟨_, s⟩ := field
    obtain ⟨key, rfl⟩ := hkey
    have hpasses := (forall_not_fieldBreaks_iff fun earlier hearlier =>
      hkeys earlier (by simp [hearlier])).mpr ⟨kept, hkept⟩
    exact ⟨before, _, after, rfl, hpasses, (fieldFails_iff_fieldBreaks hctx hs).mp hfails⟩

end Schema

/-! ## Dictionaries -/

section Dictionaries

variable {parseKey parseValue : Value → Outcome Value} {entries parsed : List (Value × Value)}
  {e : Failure}

/-- An entry fails by itself: by its key, by its value, or as its key cannot be one. -/
def EntryFails (parseKey parseValue : Value → Outcome Value) (e : Failure)
    (entry : Value × Value) : Prop :=
  parseKey entry.1 = .error e ∨ ∃ k, parseKey entry.1 = .ok k ∧
    (parseValue entry.2 = .error e ∨
      (∃ w, parseValue entry.2 = .ok w) ∧ k.isHashable = false ∧
        e = .faulted (.unhashable k.className))

/-- A dictionary fails by an entry that fails after those before it have passed. -/
theorem parseEntries_eq_error_iff :
    parseEntries parseKey parseValue entries parsed = .error e ↔
      ∃ before entry after kept, entries = before ++ entry :: after ∧
        parseEntries parseKey parseValue before parsed = .ok kept ∧
        EntryFails parseKey parseValue e entry := by
  induction entries generalizing parsed with
  | nil => simp [parseEntries]
  | cons entry entries ih =>
    obtain ⟨key, value⟩ := entry
    rw [parseEntries, bind_eq_error]
    constructor
    · rintro (h | ⟨k, hk, h⟩)
      · exact ⟨[], _, entries, parsed, rfl, rfl, .inl h⟩
      · rcases bind_eq_error.mp h with h | ⟨v, hv, h⟩
        · exact ⟨[], _, entries, parsed, rfl, rfl, .inr ⟨k, hk, .inl h⟩⟩
        · cases hhash : k.isHashable with
          | true =>
            rw [if_pos hhash, ih] at h
            obtain ⟨before, entry, after, kept, rfl, hkept, h⟩ := h
            refine ⟨(key, value) :: before, entry, after, kept, rfl, ?_, h⟩
            exact parseEntries_cons_eq_ok.mpr ⟨k, v, hk, hv, hhash, hkept⟩
          | false =>
            rw [if_neg (Bool.eq_false_iff.mp hhash)] at h
            cases h
            exact ⟨[], _, entries, parsed, rfl, rfl, .inr ⟨k, hk, .inr ⟨⟨v, hv⟩, hhash, rfl⟩⟩⟩
    · rintro ⟨before, entry, after, kept, heq, hkept, h⟩
      cases before with
      | nil =>
        cases heq
        rcases h with h | ⟨k, hk, h | ⟨⟨v, hv⟩, hhash, rfl⟩⟩
        · exact .inl h
        · exact .inr ⟨k, hk, bind_eq_error.mpr (.inl h)⟩
        · refine .inr ⟨k, hk, bind_eq_error.mpr (.inr ⟨v, hv, ?_⟩)⟩
          rw [if_neg (Bool.eq_false_iff.mp hhash)]
      | cons first before =>
        cases heq
        obtain ⟨k, v, hk, hv, hhash, hkept⟩ := parseEntries_cons_eq_ok.mp hkept
        refine .inr ⟨k, hk, bind_eq_error.mpr (.inr ⟨v, hv, ?_⟩)⟩
        rw [if_pos hhash, ih]
        exact ⟨before, entry, after, kept, rfl, hkept, h⟩

/-- A dictionary whose keys are hashable fails by a key, or by the value of a key that passes, after
the entries before it have passed. -/
theorem parseEntries_eq_error
    (hkeys : ∀ entry ∈ entries, ∀ k, parseKey entry.1 = .ok k → k.isHashable = true) :
    parseEntries parseKey parseValue entries parsed = .error e ↔
      ∃ before entry after kept, entries = before ++ entry :: after ∧
        parseEntries parseKey parseValue before parsed = .ok kept ∧
        (parseKey entry.1 = .error e ∨
          ∃ k, parseKey entry.1 = .ok k ∧ parseValue entry.2 = .error e) := by
  rw [parseEntries_eq_error_iff]
  constructor
  · rintro ⟨before, entry, after, kept, rfl, hkept, h | ⟨k, hk, h | ⟨-, hhash, -⟩⟩⟩
    · exact ⟨before, entry, after, kept, rfl, hkept, .inl h⟩
    · exact ⟨before, entry, after, kept, rfl, hkept, .inr ⟨k, hk, h⟩⟩
    · exact absurd (hkeys entry (by simp) k hk) (Bool.eq_false_iff.mp hhash)
  · rintro ⟨before, entry, after, kept, rfl, hkept, h | ⟨k, hk, h⟩⟩
    · exact ⟨before, entry, after, kept, rfl, hkept, .inl h⟩
    · exact ⟨before, entry, after, kept, rfl, hkept, .inr ⟨k, hk, .inl h⟩⟩

end Dictionaries

/-! ## Unions -/

namespace Schema

variable {setting : Setting} {v : Value} {ctx : Context} {candidates : List Schema}
  {rs : List Rejection} {fault : Fault} {e : Failure}

theorem parseFirst_cons_eq_rejected {s : Schema} :
    parseFirst setting (s :: candidates) v ctx = .ok (.error rs) ↔
      ∃ r type rest, s.parse setting v ctx = .error (.rejected r) ∧ s.typeText = .ok type ∧
        parseFirst setting candidates v ctx = .ok (.error rest) ∧ rs = r :: rest := by
  rw [parseFirst]
  rcases s.parse setting v ctx with (r | fault) | w
  · simp only [bind_eq_ok, ofFault_eq_ok, Except.error.injEq, Failure.rejected.injEq,
      exists_and_left, exists_eq_left']
    constructor
    · rintro ⟨type, htype, first, hfirst, h⟩
      cases first with
      | ok w => cases h
      | error rest =>
        cases h
        exact ⟨type, htype, rest, hfirst, rfl⟩
    · rintro ⟨type, htype, rest, hrest, rfl⟩
      exact ⟨type, htype, .error rest, hrest, rfl⟩
  · simp
  · simp

/-- After a candidate that rejects the input its type is asked for, and the others are tried. -/
theorem parseFirst_cons_eq_error {s : Schema} {r : Rejection}
    (hs : s.parse setting v ctx = .error (.rejected r)) :
    parseFirst setting (s :: candidates) v ctx = .error e ↔
      (Outcome.ofFault s.typeText : Outcome String) = .error e ∨
        (∃ type, s.typeText = .ok type) ∧ parseFirst setting candidates v ctx = .error e := by
  rw [parseFirst, hs]
  simp only [bind_eq_error, ofFault_eq_ok]
  refine or_congr_right ⟨?_, ?_⟩
  · rintro ⟨type, htype, h | ⟨first, -, h⟩⟩
    · exact ⟨⟨type, htype⟩, h⟩
    · cases first <;> cases h
  · rintro ⟨⟨type, htype⟩, h⟩
    exact ⟨type, htype, .inl h⟩

/-- What a union rejects its input with are the rejections of its candidates. -/
theorem exists_candidate_of_mem (h : parseFirst setting candidates v ctx = .ok (.error rs))
    {r : Rejection} (hr : r ∈ rs) :
    ∃ s ∈ candidates, s.parse setting v ctx = .error (.rejected r) := by
  induction candidates generalizing rs with
  | nil =>
    cases h
    simp at hr
  | cons s candidates ih =>
    obtain ⟨r', type, rest, hr', -, hrest, rfl⟩ := parseFirst_cons_eq_rejected.mp h
    rcases List.mem_cons.mp hr with rfl | hr
    · exact ⟨s, List.mem_cons_self, hr'⟩
    · obtain ⟨s', hs', h⟩ := ih hrest hr
      exact ⟨s', List.mem_cons_of_mem _ hs', h⟩

/-- Rejections do not get out of the search for a candidate. -/
theorem parseFirst_ne_rejected {r : Rejection} :
    parseFirst setting candidates v ctx ≠ .error (.rejected r) := by
  induction candidates with
  | nil => simp [parseFirst]
  | cons s candidates ih =>
    intro h
    rcases hs : s.parse setting v ctx with (r' | fault) | w
    · rcases (parseFirst_cons_eq_error hs).mp h with h | ⟨-, h⟩
      · exact Outcome.ofFault_ne_rejected _ _ h
      · exact ih h
    · simp [parseFirst, hs] at h
    · simp [parseFirst, hs] at h

/-- A union whose candidates have types fails by one that faults after those before it have
rejected. -/
theorem parseFirst_eq_faulted (htypes : ∀ s ∈ candidates, ∃ type, s.typeText = .ok type) :
    parseFirst setting candidates v ctx = .error (.faulted fault) ↔
      ∃ before s after rs, candidates = before ++ s :: after ∧
        parseFirst setting before v ctx = .ok (.error rs) ∧
        s.parse setting v ctx = .error (.faulted fault) := by
  induction candidates with
  | nil => simp [parseFirst]
  | cons s candidates ih =>
    obtain ⟨⟨type, htype⟩, hrest⟩ := List.forall_mem_cons.mp htypes
    constructor
    · intro h
      rcases hs : s.parse setting v ctx with (r | fault') | w
      · rcases (parseFirst_cons_eq_error hs).mp h with htypeless | ⟨-, h⟩
        · rw [htype] at htypeless
          cases htypeless
        · obtain ⟨before, s', after, rs, rfl, hrs, h⟩ := (ih hrest).mp h
          refine ⟨s :: before, s', after, r :: rs, rfl, ?_, h⟩
          exact parseFirst_cons_eq_rejected.mpr ⟨r, type, rs, hs, htype, hrs, rfl⟩
      · simp only [parseFirst, hs, Except.error.injEq, Failure.faulted.injEq] at h
        exact ⟨[], s, candidates, [], rfl, rfl, h ▸ hs⟩
      · simp [parseFirst, hs] at h
    · rintro ⟨before, s', after, rs, heq, hrs, h⟩
      cases before with
      | nil =>
        cases heq
        rw [parseFirst, h]
      | cons first before =>
        cases heq
        obtain ⟨r, -, rest, hr, -, hrest', -⟩ := parseFirst_cons_eq_rejected.mp hrs
        exact (parseFirst_cons_eq_error hr).mpr
          (.inr ⟨⟨type, htype⟩, (ih hrest).mpr ⟨before, s', after, rest, rfl, hrest', h⟩⟩)

end Schema

end Intake
