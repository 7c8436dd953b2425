import Intake.Proofs.Schema.Alike
import Intake.Proofs.Schema.Choice

/-!
# The rejection of a union

A union that rejects an input keeps the rejections of all its candidates in their order, and its
reason tells them in two parts: the messages of those that say more than what was found, and then
what the others say was found.  Each part says everything once, where it comes up first.  So a
candidate that is there twice is heard twice, but it adds nothing to the reason.

## Main definitions

* `Rejection.found?` — what a rejection says was found, if that is all it says.
* `Rejection.sharedReason` — the reason that rejections make up together.

## Main statements

* `unionReason_eq` — the reason of a union.
* `Schema.parse_union_of_rejected` — the rejection of a union whose candidates all reject.
* `Schema.parse_union_of_packaged` — the same for candidates without rules of a user.
-/

namespace Intake

open Outcome (bind_eq_ok)

/-! ## What rejections say together -/

namespace Rejection

/-- The text of the suffix, which is empty if there is none. -/
def suffixText (r : Rejection) : String :=
  match r.reasonSuffix with
  | .text s => s
  | _ => ""

/-- What a rejection says was found, if that is all it says: the rest of its reason and its suffix,
as far as they are there. -/
def found? (r : Rejection) : Option String :=
  match r.reason.toList with
  | 'g' :: 'o' :: 't' :: ' ' :: rest =>
    some (joinWith " " ([String.ofList rest, r.suffixText].filter (· ≠ "")))
  | _ => none

/-- The messages of rejections that say more than what was found, in parentheses. -/
def sharedMessages (rs : List Rejection) : List String :=
  ((rs.filter (·.found?.isNone)).map (·.message)).eraseDups.map fun message => "(" ++ message ++ ")"

/-- What the other rejections say was found. -/
def sharedFound (rs : List Rejection) : List String :=
  (rs.filterMap (·.found?)).eraseDups

/-- The reason that rejections make up together. -/
def sharedReason (rs : List Rejection) : String :=
  match sharedMessages rs, sharedFound rs with
  | messages, [] => joinWith " and " messages
  | [], found => "got " ++ joinWith " and " found
  | messages, found => joinWith " and " messages ++ ", got " ++ joinWith " and " found

variable {r : Rejection} {rs : List Rejection}

theorem joinWith_sharedMessages_ne_empty (h : sharedMessages rs ≠ []) :
    joinWith " and " (sharedMessages rs) ≠ "" := by
  refine joinWith_ne_empty h ?_
  rw [sharedMessages, List.forall_mem_map]
  intro message _
  simp

theorem joinPhrases_text_text (a b : String) : joinPhrases (.text a) (.text b) =
    .ok (.text (joinWith " " ([a, b].filter (· ≠ "")))) := by
  by_cases ha : a = "" <;> by_cases hb : b = "" <;>
    simp [joinPhrases, Value.isTruthy, phraseText, joinWith, String.intercalate_cons_cons, ha, hb]

/-- A rejection that is not bare says with some text what was found, or it says something else. -/
theorem got?_eq_map_found? (hsuffix : r.reasonSuffix.IsPhrase) (hbare : ¬ r.Bare) :
    r.got? = r.found?.map fun text => .ok (.text text) := by
  unfold found? suffixText
  split
  · rename_i rest hreason
    have hgot : r.got? = some (joinPhrases (.text (String.ofList rest)) r.reasonSuffix) := by
      simp [got?, hreason]
    rw [hgot, Option.map_some]
    unfold Bare at hbare
    generalize r.reasonSuffix = suffix at hsuffix hbare ⊢
    cases hsuffix with
    | null =>
      -- there is no suffix, so that a rejection with nothing left of its reason would be bare
      have hrest : String.ofList rest ≠ "" := by
        intro hempty
        have hnil : rest = [] := by simpa using congrArg String.toList hempty
        refine hbare ⟨?_, rfl⟩
        rw [← String.toList_inj, hreason, hnil]
        rfl
      simp [joinPhrases, Value.isTruthy, joinWith, hrest]
    | text s => rw [joinPhrases_text_text]
  · rename_i hother
    rw [got?, Option.map_none, if_neg]
    intro hprefix
    obtain ⟨rest, hrest⟩ := List.isPrefixOf_iff_prefix.mp hprefix
    exact hother rest hrest.symm

end Rejection

/-! ## Gathering what was found -/

/-- What is there already is not added again. -/
theorem eraseDups_concat_of_mem {a : String} {texts : List String} (h : a ∈ texts) :
    (texts ++ [a]).eraseDups = texts.eraseDups := by
  simp [List.eraseDups_append, List.removeAll, h]

theorem eraseDups_concat_of_notMem {a : String} {texts : List String} (h : a ∉ texts) :
    (texts ++ [a]).eraseDups = texts.eraseDups ++ [a] := by
  simp [List.eraseDups_append, List.removeAll, h, List.eraseDups_cons]

/-- A text is added to what has been found before. -/
theorem addFound_text (before : List String) (text : String) :
    addFound (before.eraseDups.map .text) (.text text) =
      .ok ((before ++ [text]).eraseDups.map .text) := by
  have hany : (before.eraseDups.map Value.text).any (·.sameKey (.text text)) = true ↔
      text ∈ before := by
    simp [List.any_eq_true]
  rw [addFound]
  by_cases h : text ∈ before
  · rw [eraseDups_concat_of_mem h, hany.mpr h]
    rfl
  · rw [eraseDups_concat_of_notMem h, Bool.eq_false_iff.mpr (mt hany.mp h), List.map_append]
    rfl

/-- Texts are gathered in the order in which they come up first. -/
theorem foldlM_addFound_texts (before texts : List String) :
    (texts.map fun text => (.ok (.text text) : Except Fault Value)).foldlM
      (fun found phrase => do addFound found (← phrase)) (before.eraseDups.map .text) =
        .ok ((before ++ texts).eraseDups.map .text) := by
  induction texts generalizing before with
  | nil => rw [List.append_nil]; rfl
  | cons text texts ih =>
    rw [List.map_cons, List.foldlM_cons, Outcome.ok_bind, addFound_text, Outcome.ok_bind, ih,
      List.append_assoc]
    rfl

theorem mapM_foundText (texts : List String) :
    (texts.map Value.text).mapM foundText = .ok texts := by
  rw [Outcome.mapM_eq_ok_iff, List.forall₂_map_left_iff, List.forall₂_same]
  exact fun _ _ => rfl

theorem unionReason_eq {rs : List Rejection} (hsuffix : ∀ r ∈ rs, r.reasonSuffix.IsPhrase)
    (hbare : ∀ r ∈ rs, ¬ r.Bare) : unionReason rs = .ok (Rejection.sharedReason rs) := by
  have hgot : ∀ r ∈ rs, r.got? = r.found?.map fun text => .ok (.text text) := fun r hr =>
    Rejection.got?_eq_map_found? (hsuffix r hr) (hbare r hr)
  have hmessages : rs.filter (·.got?.isNone) = rs.filter (·.found?.isNone) :=
    List.filter_congr fun r hr => by rw [hgot r hr, Option.isNone_map]
  have hphrases : rs.filterMap (·.got?) =
      (rs.filterMap (·.found?)).map fun text => .ok (.text text) := by
    rw [List.map_filterMap]
    exact List.filterMap_congr hgot
  -- the union gathers what was found from nothing on, which stands for an empty list of texts
  have hfound := foldlM_addFound_texts [] (rs.filterMap (·.found?))
  rw [List.nil_append] at hfound
  rw [unionReason]
  dsimp only
  rw [hmessages, hphrases, show ([] : List Value) = ([] : List String).eraseDups.map .text from rfl,
    hfound, Outcome.ok_bind, mapM_foundText, ← Rejection.sharedFound, ← Rejection.sharedMessages]
  have hjoined : Rejection.sharedMessages rs ≠ [] →
      joinWith " and " (Rejection.sharedMessages rs) ≠ "" :=
    Rejection.joinWith_sharedMessages_ne_empty
  rw [Rejection.sharedReason]
  generalize Rejection.sharedMessages rs = messages at hjoined ⊢
  cases Rejection.sharedFound rs with
  | nil => rfl
  | cons text texts =>
    cases messages with
    | nil => rfl
    | cons message messages =>
      have hfalse := String.isEmpty_eq_false_iff.mpr (hjoined (List.cons_ne_nil _ _))
      simp only [hfalse, Bool.false_eq_true, if_false]
      simp [String.append_assoc]

namespace Rejection

/-- A rejection that is there already adds nothing to the reason. -/
theorem sharedReason_concat_of_mem {r : Rejection} {rs : List Rejection} (hr : r ∈ rs) :
    sharedReason (rs ++ [r]) = sharedReason rs := by
  have hmessages : sharedMessages (rs ++ [r]) = sharedMessages rs := by
    simp only [sharedMessages, List.filter_append, List.map_append]
    cases hfound : r.found? with
    | none =>
      have hkept : r ∈ rs.filter (·.found?.isNone) := List.mem_filter.mpr ⟨hr, by simp [hfound]⟩
      have hmem : r.message ∈ (rs.filter (·.found?.isNone)).map (·.message) :=
        List.mem_map_of_mem hkept
      simp [hfound, eraseDups_concat_of_mem hmem]
    | some text => simp [hfound]
  have hfound : sharedFound (rs ++ [r]) = sharedFound rs := by
    simp only [sharedFound, List.filterMap_append]
    cases hfound : r.found? with
    | none => simp [hfound]
    | some text =>
      have hmem : text ∈ rs.filterMap (·.found?) := List.mem_filterMap.mpr ⟨r, hr, hfound⟩
      simp [hfound, eraseDups_concat_of_mem hmem]
  rw [sharedReason, sharedReason, hmessages, hfound]

end Rejection

/-! ## Unions that reject -/

namespace Schema

variable {setting : Setting} {v : Value} {ctx : Context} {candidates : List Schema}
  {rs : List Rejection}

/-- Rejections are kept in the order of the candidates. -/
theorem parseFirst_of_rejected (htypes : ∀ s ∈ candidates, ∃ type, s.typeText = .ok type)
    (hrejects : List.Forall₂ (fun s r => s.parse setting v ctx = .error (.rejected r))
      candidates rs) : parseFirst setting candidates v ctx = .ok (.error rs) := by
  induction hrejects with
  | nil => rfl
  | cons hr _ ih =>
    obtain ⟨⟨type, htype⟩, hrest⟩ := List.forall_mem_cons.mp htypes
    exact parseFirst_cons_eq_rejected.mpr ⟨_, type, _, hr, htype, ih hrest, rfl⟩

/-- The rejection of a union in a plain context, by those of its candidates. -/
theorem exists_rejected_union (samples : Option SampleOptions) (hctx : ctx.Plain)
    (htypes : ∀ s ∈ candidates, ∃ type, s.typeText = .ok type)
    (hrejects : List.Forall₂ (fun s r => s.parse setting v ctx.candidate = .error (.rejected r))
      candidates rs)
    (hsuffix : ∀ r ∈ rs, r.reasonSuffix.IsPhrase) (hbare : ∀ r ∈ rs, ¬ r.Bare) :
    ∃ r, (union candidates samples).parse setting v ctx = .error (.rejected r) ∧ r.errors = rs ∧
      r.reason = Rejection.sharedReason rs := by
  obtain ⟨types, hshown⟩ := Outcome.exists_mapM_eq_ok_iff.mpr htypes
  obtain ⟨expected, hexpected⟩ :=
    hctx.expected ("union type of (" ++ joinWith " | " types ++ ")")
  obtain ⟨message, hmessage⟩ :=
    hctx.reject (α := Value) expected (Rejection.sharedReason rs) rs
  refine ⟨.mk message ctx.name ctx.typePrefix expected (Rejection.sharedReason rs)
    ctx.reasonSuffix rs, ?_, rfl, rfl⟩
  rw [parse, parseFirst_of_rejected htypes hrejects, Outcome.ok_bind]
  simp only [rejectUnion, unionReason_eq hsuffix hbare, signature_union hshown, Outcome.ofFault_ok,
    Outcome.ok_bind, hexpected]
  exact hmessage

/-- A candidate that is added once more adds its rejection and nothing to the reason. -/
theorem exists_rejected_union_concat (samples : Option SampleOptions) (hctx : ctx.Plain)
    (htypes : ∀ s ∈ candidates, ∃ type, s.typeText = .ok type)
    (hrejects : List.Forall₂ (fun s r => s.parse setting v ctx.candidate = .error (.rejected r))
      candidates rs)
    (hsuffix : ∀ r ∈ rs, r.reasonSuffix.IsPhrase) (hbare : ∀ r ∈ rs, ¬ r.Bare) {s : Schema}
    (hs : s ∈ candidates) :
    ∃ r, (union (candidates ++ [s]) samples).parse setting v ctx = .error (.rejected r) ∧
      r.reason = Rejection.sharedReason rs ∧ r.errors.length = rs.length + 1 := by
  obtain ⟨again, hagain, hparse⟩ : ∃ again ∈ rs,
      s.parse setting v ctx.candidate = .error (.rejected again) :=
    Outcome.exists_mem_of_forall₂ hrejects hs
  have hrejects' := List.rel_append hrejects (.cons hparse .nil)
  obtain ⟨r, hr, herrors, hreason⟩ := exists_rejected_union samples hctx
    (List.forall_mem_append.mpr ⟨htypes, List.forall_mem_singleton.mpr (htypes s hs)⟩) hrejects'
    (List.forall_mem_append.mpr ⟨hsuffix, List.forall_mem_singleton.mpr (hsuffix again hagain)⟩)
    (List.forall_mem_append.mpr ⟨hbare, List.forall_mem_singleton.mpr (hbare again hagain)⟩)
  refine ⟨r, hr, ?_, ?_⟩
  · rw [hreason, Rejection.sharedReason_concat_of_mem hagain]
  · rw [herrors, List.length_append, List.length_singleton]

/-- A union whose candidates all reject an input rejects it as well.  It keeps what each candidate
rejects the input with when it is only told the name, and its reason is what they say together.  A
candidate that is added once more adds its rejection and nothing to the reason.

The candidates have types to be shown by, as all have whose fixed values can be written and whose
keys are text; and the suffix of a rejection is text, if there is one. -/
theorem parse_union_of_rejected (hctx : ctx.Plain)
    (htypes : ∀ s ∈ candidates, ∃ type, s.typeText = .ok type)
    (hrejects : List.Forall₂
      (fun s r => s.parse setting v { name := ctx.name } = .error (.rejected r)) candidates rs)
    (hsuffix : ∀ r ∈ rs, r.reasonSuffix.IsPhrase) (hbare : ∀ r ∈ rs, ¬ r.Bare)
    (samples : Option SampleOptions) :
    ∃ r, (union candidates samples).parse setting v ctx = .error (.rejected r) ∧ r.errors = rs ∧
      r.reason = Rejection.sharedReason rs ∧
      ∀ s ∈ candidates, ∃ r',
        (union (candidates ++ [s]) samples).parse setting v ctx = .error (.rejected r') ∧
          r'.reason = r.reason ∧ r'.errors.length = r.errors.length + 1 := by
  obtain ⟨r, hr, herrors, hreason⟩ :=
    exists_rejected_union samples hctx htypes hrejects hsuffix hbare
  refine ⟨r, hr, herrors, hreason, fun s hs => ?_⟩
  rw [hreason, herrors]
  exact exists_rejected_union_concat samples hctx htypes hrejects hsuffix hbare hs

/-- Ways to give some paint, one of them twice. -/
def paints : List Schema :=
  [object [(.text "ink", leaf .color none)] none, dict (leaf .color none) (leaf .color none) none,
    leaf .color none, leaf .color none]

/-- What they reject a colour without a name with. -/
def paintRejections : List Rejection :=
  [.mk "Invalid object, missing \"ink\"" .null .null "object" "missing \"ink\"" .null [],
    .mk "Invalid dict/record, got null in value" .null .null "dict/record" "got null"
      (.text "in value") [],
    .mk "Invalid color, got object" .null .null "color" "got object" .null [],
    .mk "Invalid color, got object" .null .null "color" "got object" .null []]

theorem parse_union_paints :
    ∃ r, (union paints none).parse "en" (.dict [(.text "#c0ffee", .null)]) .root =
        .error (.rejected r) ∧
      r.errors = paintRejections ∧
      r.reason = "(Invalid object, missing \"ink\"), got null in value and object" ∧
      ∃ r', (union (paints ++ [leaf .color none]) none).parse "en"
          (.dict [(.text "#c0ffee", .null)]) .root = .error (.rejected r') ∧
        r'.reason = r.reason ∧ r'.errors.length = 5 := by
  have htypes : ∀ s ∈ paints, ∃ type, s.typeText = .ok type := by
    simp only [paints, List.forall_mem_cons]
    exact ⟨⟨_, rfl⟩, ⟨_, rfl⟩, ⟨_, rfl⟩, ⟨_, rfl⟩, by simp⟩
  have hsuffix : ∀ r ∈ paintRejections, r.reasonSuffix.IsPhrase := by
    simp only [paintRejections, List.forall_mem_cons]
    exact ⟨.null, .text _, .null, .null, by simp⟩
  have hbare : ∀ r ∈ paintRejections, ¬ r.Bare := by
    simp [paintRejections, Rejection.Bare, Rejection.reason]
  have hrejects : List.Forall₂ (fun s r =>
      s.parse "en" (.dict [(.text "#c0ffee", .null)]) { name := .null } = .error (.rejected r))
      paints paintRejections := .cons rfl (.cons rfl (.cons rfl (.cons rfl .nil)))
  obtain ⟨r, hr, herrors, hreason, htwice⟩ :=
    parse_union_of_rejected Context.plain_root htypes hrejects hsuffix hbare none
  obtain ⟨r', hr', hreason', hlength⟩ := htwice (leaf .color none) (by simp [paints])
  refine ⟨r, hr, herrors, hreason.trans rfl, r', hr', hreason', ?_⟩
  rw [hlength, herrors]
  rfl

/-! ### Candidates without rules of a user -/

/-- Without rules of a user, what stands after the reason of a rejection is some text or nothing, if
that is so for the context. -/
theorem isNote_reasonSuffix {s : Schema} {r : Rejection} (hs : s.Every Packaged) (hctx : ctx.Plain)
    (hnote : ctx.reasonSuffix.IsNote) (h : s.parse setting v ctx = .error (.rejected r)) :
    r.reasonSuffix.IsNote := by
  have halike := contextFree_parse hs setting hctx hctx v
  rw [h] at halike
  cases halike with
  | rejected reason suffix => exact (suffix rfl hnote).2

/-- Unions of candidates without rules of a user, which have types and suffixes of text. -/
theorem parse_union_of_packaged (hctx : ctx.Plain)
    (hpackaged : ∀ s ∈ candidates, s.Every Packaged) (htyped : ∀ s ∈ candidates, s.Every Typed)
    (hrejects : List.Forall₂
      (fun s r => s.parse setting v { name := ctx.name } = .error (.rejected r)) candidates rs)
    (hbare : ∀ r ∈ rs, ¬ r.Bare) (samples : Option SampleOptions) :
    ∃ r, (union candidates samples).parse setting v ctx = .error (.rejected r) ∧ r.errors = rs ∧
      r.reason = Rejection.sharedReason rs ∧
      ∀ s ∈ candidates, ∃ r',
        (union (candidates ++ [s]) samples).parse setting v ctx = .error (.rejected r') ∧
          r'.reason = r.reason ∧ r'.errors.length = r.errors.length + 1 := by
  have htypes : ∀ s ∈ candidates, ∃ type, s.typeText = .ok type := fun s hs =>
    exists_typeText_of_typed (htyped s hs)
  have hsuffix : ∀ r ∈ rs, r.reasonSuffix.IsPhrase := by
    intro r hr
    obtain ⟨s, hs, hparse⟩ := Outcome.exists_mem_of_forall₂ hrejects.flip hr
    have hplain := Context.plain_named hctx.name
    exact (isNote_reasonSuffix (hpackaged s hs) hplain .null hparse).isPhrase
  obtain ⟨r, hr, herrors, hreason⟩ :=
    exists_rejected_union samples hctx htypes hrejects hsuffix hbare
  refine ⟨r, hr, herrors, hreason, fun s hs => ?_⟩
  rw [hreason, herrors]
  exact exists_rejected_union_concat samples hctx htypes hrejects hsuffix hbare hs

end Schema

end Intake
