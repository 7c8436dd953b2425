import Intake.Proofs.Schema.Reliable

/-!
# Unions of unions

A union takes the outcome of its first candidate that does not reject the input, whether that is a
value or a fault, and it rejects the input itself if there is none.  A union among the candidates
does the same with its own, so they might as well stand in its place.  Only the words of a rejection
tell the two apart.

## Main definitions

* `Outcome.Agree` — outcomes that differ in the words of a rejection at most.
* `Rejection.Outspoken` — a rejection that says something about the input.
* `Schema.Candid` — a candidate that has a type, and is outspoken if it rejects an input.
* `Schema.Declines` — a candidate that rejects an input and can be noted to do so.

## Main statements

* `Schema.parse_union_of_first` — the outcome of the first candidate that does not reject.
* `Schema.exists_reject_union` — the rejection of a union, if there is no such candidate.
* `Schema.parse_union_append_union` — a union among candidates may be replaced by its own
  candidates.
-/

namespace Intake

open Outcome (bind_eq_ok bind_eq_error ofFault_eq_ok)

/-! ## Agreement -/

/-- Two outcomes are the same, or they are both rejections, each with words of its own. -/
inductive Outcome.Agree {α : Type} : Outcome α → Outcome α → Prop
  | same (x : Outcome α) : Agree x x
  | rejected (r s : Rejection) : Agree (.error (.rejected r)) (.error (.rejected s))

theorem Outcome.Agree.eq_ok {α : Type} {x : Outcome α} {a : α} (h : x.Agree (.ok a)) :
    x = .ok a := by
  cases h
  rfl

/-- Rejections in one context agree if they expect the same. -/
theorem Context.agree_reject {α : Type} (ctx : Context) (type : Value) (reason reason' : String)
    (rs ss : List Rejection) :
    (ctx.reject type reason rs : Outcome α).Agree (ctx.reject type reason' ss) := by
  simp only [reject, rejectAs, Rejection.build]
  cases phraseBefore ctx.typePrefix with
  | error fault =>
    simp only [Outcome.error_bind, Outcome.ofFault_error]
    exact .same _
  | ok before =>
    cases phraseText type with
    | error fault =>
      simp only [Outcome.ok_bind, Outcome.error_bind, Outcome.ofFault_error]
      exact .same _
    | ok text =>
      cases nameClause ctx.name with
      | error fault =>
        simp only [Outcome.ok_bind, Outcome.error_bind, Outcome.ofFault_error]
        exact .same _
      | ok clause =>
        cases phraseAfter ctx.reasonSuffix with
        | error fault => exact .same _
        | ok after => exact .rejected _ _

/-- An input that goes by a name that can be quoted is rejected by the candidates of a union. -/
theorem Context.exists_reject_candidate {α : Type} {ctx : Context}
    (hname : ∃ clause, nameClause ctx.name = .ok clause) (type : String) {reason : String}
    (hreason : reason ≠ "got ") (rs : List Rejection) :
    ∃ r, (ctx.candidate.reject (ctx.candidate.expected type) reason rs : Outcome α) =
      .error (.rejected r) ∧ r.Voiced := by
  obtain ⟨clause, hclause⟩ := hname
  have hbuild : ∃ r,
      Rejection.build ctx.name .null (.text type) (.text reason) .null rs = .ok r := by
    rw [Rejection.build, hclause]
    exact ⟨_, rfl⟩
  obtain ⟨r, hr⟩ := hbuild
  have hrejected : (ctx.candidate.reject (ctx.candidate.expected type) reason rs : Outcome α) =
      .error (.rejected r) := by
    rw [reject, rejectAs]
    exact bind_eq_error.mpr (.inr ⟨r, ofFault_eq_ok.mpr hr, rfl⟩)
  exact ⟨r, hrejected, ctx.candidate.voiced_rejectAs hreason r hrejected⟩

/-! ## Candidates -/

namespace Rejection

variable {r : Rejection}

/-- A rejection that is put together from its parts, and that does not leave it at the word by which
it begins to say what was found. -/
def Outspoken (r : Rejection) : Prop :=
  (r.reason = "got " → r.reasonSuffix.isTruthy = true) ∧
    ∃ name typePrefix type reason suffix errors,
      Rejection.build name typePrefix type reason suffix errors = .ok r

theorem Voiced.outspoken (h : r.Voiced) : r.Outspoken :=
  ⟨fun hreason => absurd hreason h.1, h.2⟩

theorem Outspoken.toSays (h : r.Outspoken) : r.Says := by
  obtain ⟨hreason, name, typePrefix, type, reason, suffix, errors, hbuild⟩ := h
  obtain ⟨⟨-, -, hsuffix⟩, -, -, htext⟩ := build_eq_ok hbuild
  by_cases hgot : r.reason = "got "
  · rcases got?_cases (r := r) with hnone | ⟨rest, hrest, hsome⟩
    · exact .inl hnone
    · -- nothing is left of the reason, so that the suffix is all that is said
      have htruthy := hreason hgot
      obtain ⟨t, ht⟩ := htext (hsuffix ▸ htruthy)
      rw [hrest.mp hgot, hsuffix, ht] at hsome
      rw [hsuffix, ht] at htruthy
      exact .inr ⟨t, by simpa [Value.isTruthy] using htruthy, hsome⟩
  · exact says_of_reason_ne hgot (hsuffix ▸ htext)

end Rejection

namespace Schema

variable {setting : Setting} {v : Value} {ctx : Context} {s : Schema}
  {before after candidates : List Schema} {samples : Option SampleOptions}

/-- A candidate of a union for an input: it has a type by which it is shown, and if it rejects the
input it says something. -/
structure Candid (setting : Setting) (v : Value) (ctx : Context) (s : Schema) : Prop where
  exists_typeText : ∃ type, s.typeText = .ok type ∧ type ≠ ""
  outspoken : ∀ {r}, s.parse setting v ctx = .error (.rejected r) → r.Outspoken

/-- A candidate rejects an input, and has a type under which that is noted. -/
def Declines (setting : Setting) (v : Value) (ctx : Context) (s : Schema) : Prop :=
  (∃ type, s.typeText = .ok type) ∧ ∃ r, s.parse setting v ctx = .error (.rejected r)

/-- A reliable schema is candid about inputs from clients. -/
theorem candid_of_reliable (h : s.Every (Reliable setting)) (hv : v.Named) (hctx : ctx.Plain) :
    s.Candid setting v ctx := by
  obtain ⟨type, htype, hne⟩ := exists_signature h
  exact ⟨⟨type, typeText_of_signature htype hne, hne⟩, fun hr =>
    (givesReasons h hv hctx _ hr).outspoken⟩

theorem Candid.declines (h : s.Candid setting v ctx) {r : Rejection}
    (hr : s.parse setting v ctx = .error (.rejected r)) : s.Declines setting v ctx :=
  ⟨h.exists_typeText.imp fun _ => And.left, r, hr⟩

theorem Candid.ne_rejected_of_not_declines (h : s.Candid setting v ctx)
    (hs : ¬ s.Declines setting v ctx) (r : Rejection) :
    s.parse setting v ctx ≠ .error (.rejected r) :=
  fun hr => hs (h.declines hr)

/-! ## The first candidate -/

/-- Candidates that decline an input are passed over. -/
theorem parseFirst_of_first (hbefore : ∀ earlier ∈ before, earlier.Declines setting v ctx)
    (hs : ∀ r, s.parse setting v ctx ≠ .error (.rejected r)) :
    parseFirst setting (before ++ s :: after) v ctx = Except.ok <$> s.parse setting v ctx := by
  induction before with
  | nil =>
    rw [List.nil_append, parseFirst]
    cases h : s.parse setting v ctx with
    | ok w => rfl
    | error failure =>
      cases failure with
      | faulted fault => rfl
      | rejected r => exact absurd h (hs r)
  | cons earlier before ih =>
    obtain ⟨⟨⟨type, htype⟩, r, hr⟩, hrest⟩ := List.forall_mem_cons.mp hbefore
    rw [List.cons_append, parseFirst, hr]
    simp only [htype, Outcome.ofFault_ok, Outcome.ok_bind, ih hrest]
    cases s.parse setting v ctx <;> rfl

/-- A union has the outcome of the first candidate that does not reject the input. -/
theorem parse_union_of_first
    (hbefore : ∀ earlier ∈ before, earlier.Declines setting v ctx.candidate)
    (hs : ∀ r, s.parse setting v ctx.candidate ≠ .error (.rejected r)) :
    (union (before ++ s :: after) samples).parse setting v ctx =
      s.parse setting v ctx.candidate := by
  rw [parse, parseFirst_of_first hbefore hs]
  cases s.parse setting v ctx.candidate <;> rfl

/-- If all candidates decline an input, all of their rejections are kept. -/
theorem exists_parseFirst_eq_rejected (h : ∀ s ∈ candidates, s.Declines setting v ctx) :
    ∃ rs, parseFirst setting candidates v ctx = .ok (.error rs) := by
  induction candidates with
  | nil => exact ⟨[], rfl⟩
  | cons s candidates ih =>
    obtain ⟨⟨⟨type, htype⟩, r, hr⟩, hrest⟩ := List.forall_mem_cons.mp h
    obtain ⟨rs, hrs⟩ := ih hrest
    exact ⟨r :: rs, parseFirst_cons_eq_rejected.mpr ⟨r, type, rs, hr, htype, hrs, rfl⟩⟩

/-- If all candidates decline an input, the union rejects it with a reason of its own. -/
theorem exists_reject_union {type : String}
    (hcandid : ∀ s ∈ candidates, s.Candid setting v ctx.candidate)
    (hdeclines : ∀ s ∈ candidates, s.Declines setting v ctx.candidate)
    (htype : (union candidates samples).signature = .ok type) :
    ∃ reason rs, reason ≠ "got " ∧ (union candidates samples).parse setting v ctx =
      ctx.reject (ctx.expected ("union type of (" ++ type ++ ")")) reason rs := by
  obtain ⟨rs, hrs⟩ := exists_parseFirst_eq_rejected hdeclines
  have hsays : ∀ r ∈ rs, r.Says := by
    intro r hr
    obtain ⟨s, hs, hr⟩ := exists_candidate_of_mem hrs hr
    exact ((hcandid s hs).outspoken hr).toSays
  obtain ⟨reason, hreason, hne⟩ := exists_unionReason hsays
  refine ⟨reason, rs, hne, ?_⟩
  rw [parse, hrs, htype]
  simp only [Outcome.ok_bind, rejectUnion, hreason, Outcome.ofFault_ok]

/-! ## Types -/

theorem signatures_eq_mapM : signatures candidates = candidates.mapM typeText := by
  induction candidates with
  | nil => rfl
  | cons s candidates ih => rw [signatures, ih, List.mapM_cons]; rfl

/-- The type of a union shows those of its candidates. -/
theorem signature_union {types : List String} (h : candidates.mapM typeText = .ok types) :
    (union candidates samples).signature = .ok (joinWith " | " types) := by
  rw [signature, signatures_eq_mapM, h]
  rfl

theorem exists_types (h : ∀ s ∈ candidates, s.Candid setting v ctx) :
    ∃ types, candidates.mapM typeText = .ok types ∧ ∀ type ∈ types, type ≠ "" :=
  Outcome.exists_mapM_eq_ok fun s hs => (h s hs).exists_typeText

/-! ## Unions among candidates -/

section Nested

variable {ps qs rs : List Schema} {inner outer flat : Option SampleOptions}

/-- A union of something is shown by the types of its candidates. -/
theorem exists_typeText_union (hqs : qs ≠ []) (hcandid : ∀ s ∈ qs, s.Candid setting v ctx) :
    ∃ types, qs.mapM typeText = .ok types ∧ types ≠ [] ∧ joinWith " | " types ≠ "" ∧
      ∀ samples, (union qs samples).typeText = .ok (joinWith " | " types) := by
  obtain ⟨types, htypes, hne⟩ := exists_types hcandid
  have hnil : types ≠ [] := by
    rintro rfl
    exact hqs (List.length_eq_zero_iff.mp (Outcome.length_of_mapM_eq_ok htypes).symm)
  have hjoined : joinWith " | " types ≠ "" := joinWith_ne_empty hnil hne
  exact ⟨types, htypes, hnil, hjoined, fun samples =>
    typeText_of_signature (signature_union htypes) hjoined⟩

/-- Types that are joined already may stand among others. -/
theorem exists_signature_append (hqs : qs ≠ [])
    (hcandid : ∀ s ∈ ps ++ qs ++ rs, s.Candid setting v ctx) :
    ∃ type, (union (ps ++ union qs inner :: rs) outer).signature = .ok type ∧
      (union (ps ++ qs ++ rs) flat).signature = .ok type := by
  obtain ⟨hcandid, hcandidR⟩ := List.forall_mem_append.mp hcandid
  obtain ⟨hcandidP, hcandidQ⟩ := List.forall_mem_append.mp hcandid
  obtain ⟨pTypes, hp, -⟩ := exists_types hcandidP
  obtain ⟨qTypes, hq, hnil, -, hinner⟩ := exists_typeText_union hqs hcandidQ
  obtain ⟨rTypes, hr, -⟩ := exists_types hcandidR
  have hnested : (ps ++ union qs inner :: rs).mapM typeText =
      .ok (pTypes ++ joinWith " | " qTypes :: rTypes) := by
    rw [List.mapM_append, hp, List.mapM_cons, hinner inner, hr]
    rfl
  have hflat : (ps ++ qs ++ rs).mapM typeText = .ok (pTypes ++ qTypes ++ rTypes) := by
    rw [List.mapM_append, List.mapM_append, hp, hq, hr]
    rfl
  refine ⟨_, signature_union hnested, ?_⟩
  rw [signature_union hflat, joinWith_append_joinWith hnil]

/-- A union of candid candidates declines an input if all of them do. -/
theorem exists_voiced_of_declines (hqs : qs ≠ [])
    (hcandid : ∀ s ∈ qs, s.Candid setting v ctx.candidate)
    (hdeclines : ∀ s ∈ qs, s.Declines setting v ctx.candidate)
    (hname : ∃ clause, nameClause ctx.name = .ok clause) :
    ∃ r, (union qs inner).parse setting v ctx.candidate = .error (.rejected r) ∧ r.Voiced := by
  obtain ⟨types, htypes, -⟩ := exists_typeText_union hqs hcandid
  have hsignature : (union qs inner).signature = .ok (joinWith " | " types) :=
    signature_union htypes
  -- the candidates of the inner union have the context that those of the outer one have
  have hcandid : ∀ s ∈ qs, s.Candid setting v ctx.candidate.candidate := hcandid
  obtain ⟨reason, rs, hreason, hparse⟩ := exists_reject_union hcandid hdeclines hsignature
  rw [hparse]
  exact Context.exists_reject_candidate hname _ hreason rs

/-- A union of candid candidates is candid as a candidate itself. -/
theorem candid_union (hqs : qs ≠ []) (hcandid : ∀ s ∈ qs, s.Candid setting v ctx.candidate)
    (hname : ∃ clause, nameClause ctx.name = .ok clause) :
    (union qs inner).Candid setting v ctx.candidate := by
  obtain ⟨types, -, -, hne, htype⟩ := exists_typeText_union hqs hcandid
  refine ⟨⟨_, htype inner, hne⟩, fun {r} hr => ?_⟩
  rcases forall_or_exists_first (Declines setting v ctx.candidate) qs with
    hdeclines | ⟨before, s, after, rfl, hbefore, hs⟩
  · obtain ⟨r', hr', hvoiced⟩ := exists_voiced_of_declines hqs hcandid hdeclines hname
    cases hr'.symm.trans hr
    exact hvoiced.outspoken
  · -- the rejection would be that of a candidate which does not reject
    have hs := (hcandid s (by simp)).ne_rejected_of_not_declines hs
    have hparse : (union (before ++ s :: after) inner).parse setting v ctx.candidate =
        s.parse setting v ctx.candidate := parse_union_of_first hbefore hs
    exact absurd (hparse.symm.trans hr) (hs r)

/-- A union declines, as a candidate of another, what all of its own candidates decline. -/
theorem declines_union (hqs : qs ≠ []) (hcandid : ∀ s ∈ qs, s.Candid setting v ctx.candidate)
    (hdeclines : ∀ s ∈ qs, s.Declines setting v ctx.candidate)
    (hname : ∃ clause, nameClause ctx.name = .ok clause) :
    (union qs inner).Declines setting v ctx.candidate := by
  obtain ⟨r, hr, -⟩ := exists_voiced_of_declines hqs hcandid hdeclines hname
  exact (candid_union hqs hcandid hname).declines hr

/-- If all candidates decline an input, both unions reject it, and expect the same. -/
theorem agree_union_append_of_declines (hqs : qs ≠ [])
    (hcandid : ∀ s ∈ ps ++ qs ++ rs, s.Candid setting v ctx.candidate)
    (hname : ∃ clause, nameClause ctx.name = .ok clause)
    (hp : ∀ s ∈ ps, s.Declines setting v ctx.candidate)
    (hq : ∀ s ∈ qs, s.Declines setting v ctx.candidate)
    (hr : ∀ s ∈ rs, s.Declines setting v ctx.candidate) :
    ((union (ps ++ union qs inner :: rs) outer).parse setting v ctx).Agree
      ((union (ps ++ qs ++ rs) flat).parse setting v ctx) := by
  obtain ⟨hcandidPQ, hcandidR⟩ := List.forall_mem_append.mp hcandid
  obtain ⟨hcandidP, hcandidQ⟩ := List.forall_mem_append.mp hcandidPQ
  have htype : ∃ type, (union (ps ++ union qs inner :: rs) outer).signature = .ok type ∧
      (union (ps ++ qs ++ rs) flat).signature = .ok type := exists_signature_append hqs hcandid
  obtain ⟨type, hnestedType, hflatType⟩ := htype
  have hunion : (union qs inner).Candid setting v ctx.candidate := candid_union hqs hcandidQ hname
  have hnestedCandid : ∀ s ∈ ps ++ union qs inner :: rs, s.Candid setting v ctx.candidate :=
    List.forall_mem_append.mpr ⟨hcandidP, List.forall_mem_cons.mpr ⟨hunion, hcandidR⟩⟩
  have hnestedDeclines : ∀ s ∈ ps ++ union qs inner :: rs, s.Declines setting v ctx.candidate :=
    List.forall_mem_append.mpr
      ⟨hp, List.forall_mem_cons.mpr ⟨declines_union hqs hcandidQ hq hname, hr⟩⟩
  have hflatDeclines : ∀ s ∈ ps ++ qs ++ rs, s.Declines setting v ctx.candidate :=
    List.forall_mem_append.mpr ⟨List.forall_mem_append.mpr ⟨hp, hq⟩, hr⟩
  obtain ⟨reason, errors, -, hnested⟩ :=
    exists_reject_union hnestedCandid hnestedDeclines hnestedType
  obtain ⟨reason', errors', -, hflat⟩ := exists_reject_union hcandid hflatDeclines hflatType
  rw [hnested, hflat]
  exact ctx.agree_reject _ _ _ _ _

/-- A union has the outcome that it has with the candidates of a union among its own. -/
theorem agree_union_append (hqs : qs ≠ [])
    (hcandid : ∀ s ∈ ps ++ qs ++ rs, s.Candid setting v ctx.candidate)
    (hname : ∃ clause, nameClause ctx.name = .ok clause) :
    ((union (ps ++ union qs inner :: rs) outer).parse setting v ctx).Agree
      ((union (ps ++ qs ++ rs) flat).parse setting v ctx) := by
  obtain ⟨hcandidPQ, hcandidR⟩ := List.forall_mem_append.mp hcandid
  obtain ⟨hcandidP, hcandidQ⟩ := List.forall_mem_append.mp hcandidPQ
  rcases forall_or_exists_first (Declines setting v ctx.candidate) ps with
    hp | ⟨before, s, after, hsplit, hbefore, hs⟩
  · rcases forall_or_exists_first (Declines setting v ctx.candidate) qs with
      hq | ⟨before, s, after, hsplit, hbefore, hs⟩
    · -- the inner union declines, so that the choice is left to the candidates after it
      have hdeclines : (union qs inner).Declines setting v ctx.candidate :=
        declines_union hqs hcandidQ hq hname
      rcases forall_or_exists_first (Declines setting v ctx.candidate) rs with
        hr | ⟨before, s, after, hsplit, hbefore, hs⟩
      · exact agree_union_append_of_declines hqs hcandid hname hp hq hr
      · have hs := (hcandidR s (by simp [hsplit])).ne_rejected_of_not_declines hs
        have hnested :
            ps ++ union qs inner :: rs = ps ++ union qs inner :: before ++ s :: after := by
          simp [hsplit]
        have hflat : ps ++ qs ++ rs = ps ++ qs ++ before ++ s :: after := by
          simp [hsplit]
        rw [hnested, hflat,
          parse_union_of_first
            (List.forall_mem_append.mpr ⟨hp, List.forall_mem_cons.mpr ⟨hdeclines, hbefore⟩⟩) hs,
          parse_union_of_first
            (List.forall_mem_append.mpr ⟨List.forall_mem_append.mpr ⟨hp, hq⟩, hbefore⟩) hs]
        exact .same _
    · -- the inner union has the outcome of its candidate, so it does not reject either
      have hs := (hcandidQ s (by simp [hsplit])).ne_rejected_of_not_declines hs
      have hinner : (union qs inner).parse setting v ctx.candidate =
          s.parse setting v ctx.candidate := by
        rw [hsplit]
        exact parse_union_of_first hbefore hs
      have hflat : ps ++ qs ++ rs = ps ++ before ++ s :: (after ++ rs) := by
        simp [hsplit]
      rw [hflat, parse_union_of_first hp (fun r => hinner ▸ hs r),
        parse_union_of_first (List.forall_mem_append.mpr ⟨hp, hbefore⟩) hs, hinner]
      exact .same _
  · have hs := (hcandidP s (by simp [hsplit])).ne_rejected_of_not_declines hs
    have hnested : ps ++ union qs inner :: rs = before ++ s :: (after ++ union qs inner :: rs) := by
      simp [hsplit]
    have hflat : ps ++ qs ++ rs = before ++ s :: (after ++ qs ++ rs) := by
      simp [hsplit]
    rw [hnested, hflat, parse_union_of_first hbefore hs, parse_union_of_first hbefore hs]
    exact .same _

/-- Unions are associative, and take what the first candidate comes to that does not reject.  A
union among the candidates of another may be replaced by its own candidates: the same inputs are
accepted with the same values, the same faults arise, and the type is the same. -/
theorem parse_union_append_union (hqs : qs ≠ [])
    (hcandid : ∀ s ∈ ps ++ qs ++ rs, s.Candid setting v ctx.candidate)
    (hname : ∃ clause, nameClause ctx.name = .ok clause) :
    ((union (ps ++ union qs inner :: rs) outer).parse setting v ctx).Agree
        ((union (ps ++ qs ++ rs) flat).parse setting v ctx) ∧
      (∃ type, (union (ps ++ union qs inner :: rs) outer).signature = .ok type ∧
        (union (ps ++ qs ++ rs) flat).signature = .ok type) ∧
      ∀ before s after, ps ++ qs ++ rs = before ++ s :: after →
        (∀ earlier ∈ before, ∃ r, earlier.parse setting v ctx.candidate = .error (.rejected r)) →
        (∀ r, s.parse setting v ctx.candidate ≠ .error (.rejected r)) →
        (union (ps ++ qs ++ rs) flat).parse setting v ctx = s.parse setting v ctx.candidate := by
  refine ⟨agree_union_append hqs hcandid hname, exists_signature_append hqs hcandid, ?_⟩
  intro before s after hsplit hbefore hs
  have hdeclines : ∀ earlier ∈ before, earlier.Declines setting v ctx.candidate := by
    intro earlier hearlier
    obtain ⟨r, hr⟩ := hbefore earlier hearlier
    exact (hcandid earlier (by simp [hsplit, hearlier])).declines hr
  rw [hsplit]
  exact parse_union_of_first hdeclines hs

end Nested

/-- A schema by a user that accepts one word only. -/
def word (w : String) : Schema :=
  .custom
    { type := w
      sample := .text w
      parse := fun v ctx =>
        if v.same (.text w) then .ok v else ctx.reject (.text w) "got another word" }

theorem word_reliable {w : String} (hw : w ≠ "") : (word w).Every (Reliable setting) := by
  refine .node ⟨fun v ctx _ hctx => ?_, hw⟩ (by simp [word, parts])
  dsimp only
  split
  · exact .inl ⟨v, rfl⟩
  · obtain ⟨message, hmessage⟩ := hctx.reject (α := Value) w "got another word" []
    exact .inr ⟨_, hmessage, ctx.voiced_rejectAs (by simp) _ hmessage⟩

/-- The positions of a door. -/
def positions : List Schema :=
  [word "open"] ++ [word "shut", word "ajar"] ++ [word "off"]

theorem positions_candid : ∀ s ∈ positions, s.Candid "en" (.text "ajar") .root := by
  have hword : ∀ {w}, w ≠ "" → (word w).Candid "en" (.text "ajar") .root := fun hw =>
    candid_of_reliable (word_reliable hw) (.node (by decide) (by simp [Value.parts]))
      Context.plain_root
  simp only [positions, List.cons_append, List.nil_append, List.forall_mem_cons]
  exact ⟨hword (by simp), hword (by simp), hword (by simp), hword (by simp), by simp⟩

theorem parse_union_append_union_positions :
    (∀ s ∈ positions, s.Candid "en" (.text "ajar") .root) ∧
      (union [word "open", union [word "shut", word "ajar"] none, word "off"] none).parse
        "en" (.text "ajar") .root = .ok (.text "ajar") := by
  refine ⟨positions_candid, ?_⟩
  have hqs : [word "shut", word "ajar"] ≠ [] := List.cons_ne_nil _ _
  obtain ⟨hagree, -, hfirst⟩ :
      ((union ([word "open"] ++ union [word "shut", word "ajar"] none :: [word "off"]) none).parse
        "en" (.text "ajar") .root).Agree ((union positions none).parse "en" (.text "ajar") .root) ∧
      _ ∧ _ := parse_union_append_union hqs positions_candid ⟨"", rfl⟩
  have hajar : (word "ajar").parse "en" (.text "ajar") Context.root.candidate =
      .ok (.text "ajar") := rfl
  have hbefore : ∀ earlier ∈ [word "open", word "shut"],
      ∃ r, earlier.parse "en" (.text "ajar") Context.root.candidate = .error (.rejected r) := by
    simp only [List.forall_mem_cons]
    exact ⟨⟨_, rfl⟩, ⟨_, rfl⟩, by simp⟩
  have hflat := hfirst [word "open", word "shut"] (word "ajar") [word "off"] rfl hbefore
    (by simp [hajar])
  rw [positions, hflat, hajar] at hagree
  exact hagree.eq_ok

end Schema

end Intake
