import Intake.Schema.Parse
import Intake.Proofs.Alike
import Intake.Proofs.Value.Equality

/-!
# The reason of a union

A union puts together what its candidates say was found.  It can do so if each of them says
something; a candidate that gives no reason at all leaves the union without one.

## Main definitions

* `Rejection.Says`, `Rejection.Mute` — whether a rejection says what was found.
* `Rejection.Bare` — a rejection that says nothing at all.

## Main statements

* `exists_unionReason` — the reason of a union whose candidates all say something.
* `unionReason_of_mute` — no reason, if one of them is mute.
-/

namespace Intake

/-! ## Notes -/

namespace Value.IsNote

theorem isHashable {v : Value} (h : v.IsNote) : v.isHashable = true := by
  cases h <;> rfl

/-- Notes are the same key only if they are equal. -/
theorem sameKey_iff {a b : Value} (ha : a.IsNote) (hb : b.IsNote) :
    a.sameKey b = true ↔ a = b := by
  cases ha <;> cases hb <;> simp [sameKey, sameNaN, looseEq]

end Value.IsNote

/-- Notes are gathered without repetition, so that each of them is there in the end. -/
theorem foldlM_addFound {vs found : List Value} (hvs : ∀ v ∈ vs, v.IsNote)
    (hfound : ∀ v ∈ found, v.IsNote) :
    ∃ all, (vs.map Except.ok).foldlM (fun found phrase => do addFound found (← phrase)) found =
      .ok all ∧ ∀ v, v ∈ all ↔ v ∈ found ∨ v ∈ vs := by
  induction vs generalizing found with
  | nil => exact ⟨found, rfl, by simp⟩
  | cons v vs ih =>
    obtain ⟨hv, hvs⟩ := List.forall_mem_cons.mp hvs
    have hany : found.any (·.sameKey v) = true ↔ v ∈ found := by
      simp only [List.any_eq_true]
      constructor
      · rintro ⟨u, hu, heq⟩
        rwa [← (hfound u hu).sameKey_iff hv |>.mp heq]
      · intro h
        exact ⟨v, h, Value.sameKey_refl v⟩
    have hadd : ∃ more, addFound found v = .ok more ∧ ∀ u, u ∈ more ↔ u ∈ found ∨ u = v := by
      rw [addFound]
      rw [hv.isHashable]
      by_cases h : v ∈ found
      · refine ⟨found, by rw [hany.mpr h]; rfl, fun u => ?_⟩
        exact ⟨.inl, fun hu => hu.elim id fun heq => heq ▸ h⟩
      · refine ⟨found ++ [v], ?_, by simp⟩
        rw [Bool.eq_false_iff.mpr fun hv => h (hany.mp hv)]
        rfl
    obtain ⟨more, hmore, hmem⟩ := hadd
    have hmoreNote : ∀ u ∈ more, u.IsNote := fun u hu =>
      ((hmem u).mp hu).elim (hfound u) fun heq => heq ▸ hv
    obtain ⟨all, hall, hallMem⟩ := ih hvs hmoreNote
    refine ⟨all, ?_, fun u => ?_⟩
    · rw [List.map_cons, List.foldlM_cons]
      simp only [Outcome.ok_bind, hmore]
      exact hall
    · rw [hallMem, hmem, List.mem_cons]
      exact or_assoc

/-! ## What candidates say -/

namespace Rejection

/-- A rejection has a message of its own, or says with some text what was found. -/
def Says (r : Rejection) : Prop :=
  r.got? = none ∨ ∃ s, s ≠ "" ∧ r.got? = some (.ok (.text s))

/-- A rejection begins to say what was found and does not go on. -/
def Mute (r : Rejection) : Prop :=
  r.got? = some (.ok .null)

variable {r : Rejection}

/-- A rejection whose reason is put together from what is left after its first word. -/
theorem got?_cases : r.got? = none ∨ ∃ rest, (r.reason = "got " ↔ rest = "") ∧
    r.got? = some (joinPhrases (.text rest) r.reasonSuffix) := by
  unfold got?
  dsimp only
  split
  · rename_i hprefix
    obtain ⟨rest, hrest⟩ := List.isPrefixOf_iff_prefix.mp hprefix
    refine .inr ⟨_, ?_, rfl⟩
    rw [← hrest, List.drop_left, ← String.toList_inj, ← hrest, ← String.toList_inj,
      String.toList_ofList]
    simp
  · exact .inl rfl

/-- A rejection with a reason says something, whatever the words after it. -/
theorem says_of_reason_ne (hreason : r.reason ≠ "got ")
    (hsuffix : r.reasonSuffix.isTruthy = true → ∃ s, r.reasonSuffix = .text s) : r.Says := by
  rcases got?_cases (r := r) with h | ⟨rest, hrest, h⟩
  · exact .inl h
  · have hne : rest ≠ "" := fun heq => hreason (hrest.mpr heq)
    have htruthy : (Value.text rest).isTruthy = true := by simp [Value.isTruthy, hne]
    cases hs : r.reasonSuffix.isTruthy with
    | false =>
      refine .inr ⟨rest, hne, ?_⟩
      rw [h, joinPhrases, htruthy, hs]
      rfl
    | true =>
      obtain ⟨s, hs'⟩ := hsuffix hs
      refine .inr ⟨rest ++ " " ++ s, by simp [hne], ?_⟩
      rw [h, joinPhrases, htruthy, hs, hs']
      rfl

/-- A rejection has neither a reason nor anything after it. -/
def Bare (r : Rejection) : Prop :=
  r.reason = "got " ∧ r.reasonSuffix = .null

theorem Bare.mute (h : r.Bare) : r.Mute := by
  rw [Mute, got?]
  rw [h.1, h.2]
  rfl

/-- A rejection that ends with a note says something, or it is bare. -/
theorem says_or_bare (h : r.reasonSuffix.IsNote) : r.Says ∨ r.Bare := by
  by_cases hreason : r.reason = "got "
  · rcases got?_cases (r := r) with hgot | ⟨rest, hrest, hgot⟩
    · exact .inl (.inl hgot)
    · rw [hrest.mp hreason] at hgot
      rw [Bare]
      generalize r.reasonSuffix = suffix at h hgot ⊢
      cases h with
      | null => exact .inr ⟨hreason, rfl⟩
      | text hs => exact .inl (.inr ⟨_, hs, hgot⟩)
  · refine .inl (says_of_reason_ne hreason fun htruthy => ?_)
    generalize r.reasonSuffix = suffix at h htruthy ⊢
    cases h with
    | null => cases htruthy
    | text hs => exact ⟨_, rfl⟩

end Rejection

/-! ## The reason of a union -/

theorem joinWith_cons (separator t : String) (texts : List String) :
    ∃ rest, joinWith separator (t :: texts) = t ++ rest := by
  refine ⟨separator.intercalate ("" :: texts), ?_⟩
  have := String.intercalate_cons_append (s := separator) (t := t) (u := "") (l := texts)
  rwa [String.append_empty] at this

/-- Texts that are not empty are joined to one that is not. -/
theorem joinWith_ne_empty {separator : String} {texts : List String} (htexts : texts ≠ [])
    (hne : ∀ t ∈ texts, t ≠ "") : joinWith separator texts ≠ "" := by
  cases texts with
  | nil => contradiction
  | cons t texts =>
    obtain ⟨rest, hrest⟩ := joinWith_cons separator t texts
    rw [hrest]
    simp [hne t List.mem_cons_self]

/-- What the candidates say was found, as far as they do. -/
theorem filterMap_got? {errors : List Rejection} (h : ∀ r ∈ errors, r.Says ∨ r.Mute) :
    ∃ vs : List Value, errors.filterMap (·.got?) = vs.map .ok ∧ (∀ v ∈ vs, v.IsNote) ∧
      (.null ∈ vs ↔ ∃ r ∈ errors, r.Mute) := by
  induction errors with
  | nil => exact ⟨[], by simp⟩
  | cons r errors ih =>
    obtain ⟨hr, hrest⟩ := List.forall_mem_cons.mp h
    obtain ⟨vs, hvs, hnote, hnull⟩ := ih hrest
    rcases hr with (hnone | ⟨s, hs, hsome⟩) | hmute
    · refine ⟨vs, by rw [List.filterMap_cons, hnone, hvs], hnote, ?_⟩
      simp [hnull, Rejection.Mute, hnone]
    · refine ⟨.text s :: vs, by rw [List.filterMap_cons, hsome, hvs]; rfl,
        List.forall_mem_cons.mpr ⟨.text hs, hnote⟩, ?_⟩
      simp [hnull, Rejection.Mute, hsome]
    · refine ⟨.null :: vs, by rw [List.filterMap_cons, hmute, hvs]; rfl,
        List.forall_mem_cons.mpr ⟨.null, hnote⟩, ?_⟩
      simp [hmute]

/-- What is gathered from the candidates are notes, and there is an empty one if a candidate is
mute. -/
theorem exists_gathered {errors : List Rejection} (h : ∀ r ∈ errors, r.Says ∨ r.Mute) :
    ∃ found, (errors.filterMap (·.got?)).foldlM
        (fun found phrase => do addFound found (← phrase)) [] = .ok found ∧
      (∀ v ∈ found, v.IsNote) ∧ (.null ∈ found ↔ ∃ r ∈ errors, r.Mute) := by
  obtain ⟨vs, hvs, hnote, hnull⟩ := filterMap_got? h
  obtain ⟨found, hfound, hmem⟩ := foldlM_addFound hnote (by simp : ∀ v ∈ [], Value.IsNote v)
  have hmem : ∀ v, v ∈ found ↔ v ∈ vs := by simpa using hmem
  exact ⟨found, hvs ▸ hfound, fun v hv => hnote v ((hmem v).mp hv), (hmem _).trans hnull⟩

/-- Something is found, whatever stands before it. -/
theorem append_got_ne {found : String} (h : found ≠ "") (before : String) :
    before ++ "got " ++ found ≠ "got " := by
  intro heq
  have hlength := congrArg String.length heq
  have hfound : found.length ≠ 0 := by simpa using h
  simp only [String.length_append] at hlength
  omega

/-- Messages stand in parentheses. -/
theorem joinWith_messages_ne_got (messages : List String) :
    joinWith " and " (messages.map fun message => "(" ++ message ++ ")") ≠ "got " := by
  cases messages with
  | nil => simp [joinWith]
  | cons message messages =>
    obtain ⟨rest, hrest⟩ := joinWith_cons " and " ("(" ++ message ++ ")")
      (messages.map fun message => "(" ++ message ++ ")")
    rw [List.map_cons, hrest]
    intro heq
    have := congrArg String.toList heq
    simp at this

/-- A union of candidates that all say something has a reason. -/
theorem exists_unionReason {errors : List Rejection} (h : ∀ r ∈ errors, r.Says) :
    ∃ reason, unionReason errors = .ok reason ∧ reason ≠ "got " := by
  obtain ⟨found, hfound, hnote, hnull⟩ := exists_gathered fun r hr => .inl (h r hr)
  have htext : ∀ v ∈ found, ∃ t, foundText v = .ok t ∧ t ≠ "" := by
    intro v hv
    cases hnote v hv with
    | null =>
      obtain ⟨r, hr, hmute⟩ := hnull.mp hv
      have := h r hr
      simp [Rejection.Says, show r.got? = some (.ok .null) from hmute] at this
    | text hs => exact ⟨_, rfl, hs⟩
  obtain ⟨texts, htexts, hne⟩ := Outcome.exists_mapM_eq_ok htext
  rw [unionReason]
  dsimp only
  rw [hfound]
  simp only [Outcome.ok_bind]
  split
  · exact ⟨_, rfl, joinWith_messages_ne_got _⟩
  · rename_i hfoundNe
    have hnil : texts ≠ [] := by
      rintro rfl
      have hlength := Outcome.length_of_mapM_eq_ok htexts
      exact hfoundNe (List.isEmpty_iff_length_eq_zero.mpr hlength.symm)
    rw [htexts]
    exact ⟨_, rfl, append_got_ne (joinWith_ne_empty hnil hne) _⟩

/-- A union of candidates that say something, or would but are mute, has no reason if one of them
is mute. -/
theorem unionReason_of_mute {errors : List Rejection} (h : ∀ r ∈ errors, r.Says ∨ r.Mute)
    (hmute : ∃ r ∈ errors, r.Mute) : ∃ fault, unionReason errors = .error fault := by
  obtain ⟨found, hfound, -, hnull⟩ := exists_gathered h
  have hin : Value.null ∈ found := hnull.mpr hmute
  obtain ⟨fault, hfault⟩ := Outcome.exists_mapM_eq_error hin (rfl : foundText .null = .error _)
  refine ⟨fault, ?_⟩
  rw [unionReason]
  dsimp only
  rw [hfound]
  simp only [Outcome.ok_bind]
  split
  · simp_all
  · rw [hfault]
    rfl

end Intake
