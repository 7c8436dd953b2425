import Intake.Schema.Parse
import Intake.Proofs.Outcome

/-!
# Contexts of text

A context as clients give it holds text or nothing in each of its fields.  Every context that a
schema derives from such a one is of the same kind, and an input is rejected in it without a fault.

## Main definitions

* `Value.IsPhrase` — text or nothing.
* `Context.Plain` — a context that holds text or nothing.
* `dottedName` — a name and the keys below it, with dots between.

## Main statements

* `Context.Plain.item`, `Context.Plain.nonNull`, `Context.Plain.child`, `Context.Plain.entrySide` —
  the contexts of parts; `Context.Plain.of_item` and its like — any such context is plain.
* `Context.Plain.child_eq` — the name of a field.
* `Context.Plain.reject` — the parts of a rejection.
* `Context.build_of_rejectAs`, `Rejection.build_eq_ok` — the parts of a rejection in any context.
-/

namespace Intake

open Outcome (bind_eq_ok bind_eq_error map_eq_ok ofFault_eq_ok)

/-! ## Phrases -/

theorem phraseText_eq_ok {phrase : Value} {s : String} :
    phraseText phrase = .ok s ↔ phrase = .text s := by
  cases phrase <;> simp [phraseText]

/-- Whether a value is text or nothing. -/
inductive Value.IsPhrase : Value → Prop
  | null : IsPhrase .null
  | text (s : String) : IsPhrase (.text s)

namespace Value.IsPhrase

variable {a b : Value}

/-- A phrase that counts as something is text. -/
theorem eq_text (h : a.IsPhrase) (ht : a.isTruthy = true) : ∃ s, a = .text s := by
  cases h with
  | null => simp [isTruthy] at ht
  | text s => exact ⟨s, rfl⟩

/-- Two phrases are put together to a phrase. -/
theorem joinPhrases (ha : a.IsPhrase) (hb : b.IsPhrase) :
    ∃ c, Intake.joinPhrases a b = .ok c ∧ c.IsPhrase := by
  rw [Intake.joinPhrases]
  split
  · rename_i h
    obtain ⟨hta, htb⟩ := Bool.and_eq_true_iff.mp h
    obtain ⟨s, rfl⟩ := ha.eq_text hta
    obtain ⟨t, rfl⟩ := hb.eq_text htb
    exact ⟨_, rfl, .text _⟩
  · refine ⟨_, rfl, ?_⟩
    split
    · exact ha
    · exact hb

theorem phraseBefore (h : a.IsPhrase) : ∃ s, Intake.phraseBefore a = .ok s := by
  rw [Intake.phraseBefore]
  split
  · rename_i ht
    obtain ⟨s, rfl⟩ := h.eq_text ht
    exact ⟨_, rfl⟩
  · exact ⟨_, rfl⟩

theorem phraseAfter (h : a.IsPhrase) : ∃ s, Intake.phraseAfter a = .ok s := by
  rw [Intake.phraseAfter]
  split
  · rename_i ht
    obtain ⟨s, rfl⟩ := h.eq_text ht
    exact ⟨_, rfl⟩
  · exact ⟨_, rfl⟩

theorem nameClause (h : a.IsPhrase) : ∃ s, Intake.nameClause a = .ok s := by
  rw [Intake.nameClause]
  split
  · rename_i ht
    obtain ⟨s, rfl⟩ := h.eq_text ht
    exact ⟨_, rfl⟩
  · exact ⟨_, rfl⟩

end Value.IsPhrase

/-! ## Names -/

/-- A text that is joined already may stand in the place of its parts. -/
theorem joinWith_append_joinWith {separator : String} {ys : List String} (hys : ys ≠ [])
    (xs zs : List String) :
    joinWith separator (xs ++ joinWith separator ys :: zs) =
      joinWith separator (xs ++ ys ++ zs) := by
  have hhead :
      joinWith separator (joinWith separator ys :: zs) = joinWith separator (ys ++ zs) := by
    simp only [joinWith]
    by_cases hzs : zs = []
    · rw [hzs, List.append_nil, String.intercalate_singleton]
    · rw [String.intercalate_cons_of_ne_nil hzs, String.intercalate_append_of_ne_nil hys hzs]
  by_cases hxs : xs = []
  · rw [hxs, List.nil_append, List.nil_append, hhead]
  · rw [List.append_assoc]
    simp only [joinWith] at hhead ⊢
    rw [String.intercalate_append_of_ne_nil hxs (List.cons_ne_nil _ _),
      String.intercalate_append_of_ne_nil hxs (by simp [hys]), hhead]

/-- The name itself, if it counts as one. -/
def nameParts (name : Value) : List String :=
  match name with
  | .text s => if s.isEmpty then [] else [s]
  | _ => []

/-- A name and the keys below it, with dots between; nothing where there is neither. -/
def dottedName (name : Value) (keys : List String) : Value :=
  match nameParts name ++ keys with
  | [] => .null
  | parts => .text (joinWith "." parts)

theorem dottedName_of_ne_nil {name : Value} {keys : List String} (h : nameParts name ++ keys ≠ []) :
    dottedName name keys = .text (joinWith "." (nameParts name ++ keys)) := by
  rw [dottedName]
  split
  · contradiction
  · rfl

theorem isPhrase_dottedName (name : Value) (keys : List String) :
    (dottedName name keys).IsPhrase := by
  unfold dottedName
  split
  · exact .null
  · exact .text _

/-! ## Rejections that are built -/

section Built

variable {name typePrefix type reason suffix : Value} {errors : List Rejection} {r : Rejection}

/-- A rejection that is built has the parts it is built of.  Its type and its reason are text, and
so is what comes after the reason, if anything does. -/
theorem Rejection.build_eq_ok
    (h : Rejection.build name typePrefix type reason suffix errors = .ok r) :
    (r.name = name ∧ r.typePrefix = typePrefix ∧ r.reasonSuffix = suffix) ∧
      type = .text r.expectedType ∧ reason = .text r.reason ∧
      (suffix.isTruthy = true → ∃ s, suffix = .text s) := by
  obtain ⟨before, -, h⟩ := bind_eq_ok.mp h
  obtain ⟨expected, hexpected, h⟩ := bind_eq_ok.mp h
  obtain ⟨clause, -, h⟩ := bind_eq_ok.mp h
  obtain ⟨text, htext, h⟩ := bind_eq_ok.mp h
  obtain ⟨after, hafter, h⟩ := bind_eq_ok.mp h
  cases h
  refine ⟨⟨rfl, rfl, rfl⟩, phraseText_eq_ok.mp hexpected, phraseText_eq_ok.mp htext,
    fun htruthy => ?_⟩
  rw [phraseAfter, if_pos htruthy] at hafter
  obtain ⟨s, hs, -⟩ := map_eq_ok.mp hafter
  exact ⟨s, phraseText_eq_ok.mp hs⟩

/-- An input that is rejected is rejected with what is built of the words of the context. -/
theorem Context.build_of_rejectAs {α : Type} {ctx : Context}
    (h : (ctx.rejectAs name type reason errors : Outcome α) = .error (.rejected r)) :
    Rejection.build name ctx.typePrefix type reason ctx.reasonSuffix errors = .ok r := by
  rcases bind_eq_error.mp h with h | ⟨built, hbuilt, h⟩
  · exact absurd h (Outcome.ofFault_ne_rejected _ _)
  · cases h
    exact ofFault_eq_ok.mp hbuilt

end Built

namespace Context

/-! ## Rejections are no results -/

section NeverOk

variable {α : Type} (ctx : Context) (expected : Value) (errors : List Rejection) (a : α)

@[simp] theorem rejectAs_ne_ok (name reason : Value) :
    ctx.rejectAs name expected reason errors ≠ .ok a := by
  intro h
  obtain ⟨r, -, h⟩ := bind_eq_ok.mp h
  cases h

@[simp] theorem reject_ne_ok (reason : String) : ctx.reject expected reason errors ≠ .ok a :=
  ctx.rejectAs_ne_ok expected errors a ctx.name (.text reason)

@[simp] theorem rejectKind_ne_ok (v : Value) : ctx.rejectKind expected v ≠ .ok a :=
  ctx.reject_ne_ok expected [] a _

end NeverOk

/-- Nothing comes after a rejection. -/
theorem rejectAs_bind {α β : Type} (ctx : Context) (name expected reason : Value)
    (errors : List Rejection) (f : α → Outcome β) :
    (ctx.rejectAs name expected reason errors >>= f) =
      ctx.rejectAs name expected reason errors := by
  simp only [rejectAs]
  cases Rejection.build name ctx.typePrefix expected reason ctx.reasonSuffix errors <;> rfl

theorem reject_bind {α β : Type} (ctx : Context) (expected : Value) (reason : String)
    (errors : List Rejection) (f : α → Outcome β) :
    (ctx.reject expected reason errors >>= f) = ctx.reject expected reason errors :=
  ctx.rejectAs_bind ctx.name expected (.text reason) errors f

/-- A check passes where there is nothing bad, and only there. -/
@[simp] theorem rejectIf_eq_ok {ctx : Context} {bad : Bool} {expected : Value}
    {reason : Except Fault String} : ctx.rejectIf bad expected reason = .ok () ↔ bad = false := by
  rw [rejectIf]
  cases bad with
  | false => simp
  | true =>
    simp only [if_true, Bool.true_eq_false, iff_false]
    intro h
    obtain ⟨text, -, h⟩ := bind_eq_ok.mp h
    exact ctx.reject_ne_ok expected [] () text h

/-! ## Plain contexts -/

/-- A context that holds text or nothing in each of its fields. -/
structure Plain (ctx : Context) : Prop where
  name : ctx.name.IsPhrase
  typePrefix : ctx.typePrefix.IsPhrase
  reasonSuffix : ctx.reasonSuffix.IsPhrase
  overrideType : ctx.overrideType.IsPhrase

theorem plain_root : root.Plain :=
  ⟨.null, .null, .null, .null⟩

/-- The context of an input that only has a name. -/
theorem plain_named {name : Value} (h : name.IsPhrase) : Plain { name := name } :=
  ⟨h, .null, .null, .null⟩

namespace Plain

variable {ctx : Context}

theorem overriding (h : ctx.Plain) {type : Value} (ht : type.IsPhrase) :
    (ctx.overriding type).Plain :=
  ⟨h.name, h.typePrefix, h.reasonSuffix, ht⟩

theorem candidate (h : ctx.Plain) : ctx.candidate.Plain :=
  plain_named h.name

/-- What is expected in a plain context is text. -/
theorem expected (h : ctx.Plain) (type : String) : ∃ t, ctx.expected type = .text t := by
  rw [Context.expected, expectedOr]
  split
  · rename_i ht
    exact h.overrideType.eq_text ht
  · exact ⟨type, rfl⟩

theorem isPhrase_expected (h : ctx.Plain) (type : String) : (ctx.expected type).IsPhrase := by
  obtain ⟨t, ht⟩ := h.expected type
  exact ht ▸ .text t

theorem overriding_expected (h : ctx.Plain) (type : String) :
    (ctx.overriding (ctx.expected type)).Plain :=
  h.overriding (h.isPhrase_expected type)

theorem item (h : ctx.Plain) : ∃ inner, ctx.item = .ok inner ∧ inner.Plain := by
  obtain ⟨p, hp, hpp⟩ := Value.IsPhrase.joinPhrases (.text "array of") h.typePrefix
  obtain ⟨q, hq, hqp⟩ := h.reasonSuffix.joinPhrases (.text "in array")
  refine ⟨{ name := ctx.name, typePrefix := p, reasonSuffix := q }, ?_, h.name, hpp, hqp, .null⟩
  rw [Context.item, hp, hq]
  rfl

theorem nonNull (h : ctx.Plain) : ∃ inner, ctx.nonNull = .ok inner ∧ inner.Plain := by
  obtain ⟨p, hp, hpp⟩ := Value.IsPhrase.joinPhrases (.text "nullable") h.typePrefix
  refine ⟨{ ctx with typePrefix := p }, ?_, h.name, hpp, h.reasonSuffix, h.overrideType⟩
  rw [Context.nonNull, hp]
  rfl

theorem entrySide (h : ctx.Plain) {type : Value} (ht : type.IsPhrase) (side : String) :
    ∃ inner, ctx.entrySide type side = .ok inner ∧ inner.Plain := by
  obtain ⟨q, hq, hqp⟩ := h.reasonSuffix.joinPhrases (.text side)
  refine ⟨{ ctx.overriding type with reasonSuffix := q }, ?_, h.name, h.typePrefix, hqp, ht⟩
  rw [Context.entrySide, hq]
  rfl

/-- A field goes by the name of its object and its own key. -/
theorem child_eq (h : ctx.Plain) (key : String) :
    ctx.child (.text key) = .ok { name := dottedName ctx.name [key] } := by
  rw [Context.child, dottedName_of_ne_nil (by simp)]
  obtain ⟨name, typePrefix, reasonSuffix, overrideType⟩ := ctx
  cases h.name with
  | null => rfl
  | text s =>
    cases hs : s.isEmpty with
    | true => simp [Value.isTruthy, nameParts, hs, joinWith]
    | false =>
      simp [Value.isTruthy, nameParts, hs, joinWith, Value.display, String.intercalate_cons_cons]

/-- The context of a field whose key is text. -/
theorem child (h : ctx.Plain) (key : String) :
    ∃ inner, ctx.child (.text key) = .ok inner ∧ inner.Plain :=
  ⟨_, h.child_eq key, plain_named (isPhrase_dottedName _ _)⟩

/-! ### Parts whose context is known by an equation -/

section Parts

variable {inner : Context}

private theorem of_eq_ok {derived : Except Fault Context}
    (h : ∃ inner, derived = .ok inner ∧ inner.Plain) (hinner : derived = .ok inner) :
    inner.Plain := by
  obtain ⟨_, heq, hplain⟩ := h
  cases heq.symm.trans hinner
  exact hplain

theorem of_item (h : ctx.Plain) (hinner : ctx.item = .ok inner) : inner.Plain :=
  of_eq_ok h.item hinner

theorem of_nonNull (h : ctx.Plain) (hinner : ctx.nonNull = .ok inner) : inner.Plain :=
  of_eq_ok h.nonNull hinner

theorem of_child (h : ctx.Plain) {key : String} (hinner : ctx.child (.text key) = .ok inner) :
    inner.Plain :=
  of_eq_ok (h.child key) hinner

theorem of_entrySide (h : ctx.Plain) {type side : String}
    (hinner : ctx.entrySide (ctx.expected type) side = .ok inner) : inner.Plain :=
  of_eq_ok (h.entrySide (h.isPhrase_expected type) side) hinner

end Parts

/-! ## Rejections in plain contexts -/

/-- An input is rejected in a plain context with the words that are given for it. -/
theorem rejectAs {α : Type} (h : ctx.Plain) {name : Value} (hn : name.IsPhrase)
    (expected reason : String) (errors : List Rejection) :
    ∃ message, (ctx.rejectAs name (.text expected) (.text reason) errors : Outcome α) =
      .error (.rejected (.mk message name ctx.typePrefix expected reason ctx.reasonSuffix
        errors)) := by
  obtain ⟨before, hbefore⟩ := h.typePrefix.phraseBefore
  obtain ⟨clause, hclause⟩ := hn.nameClause
  obtain ⟨after, hafter⟩ := h.reasonSuffix.phraseAfter
  refine ⟨"Invalid " ++ before ++ expected ++ clause ++ ", " ++ reason ++ after, ?_⟩
  rw [Context.rejectAs, Rejection.build, hbefore, hclause, hafter]
  rfl

theorem reject {α : Type} (h : ctx.Plain) (expected reason : String) (errors : List Rejection) :
    ∃ message, (ctx.reject (.text expected) reason errors : Outcome α) =
      .error (.rejected (.mk message ctx.name ctx.typePrefix expected reason ctx.reasonSuffix
        errors)) :=
  h.rejectAs h.name expected reason errors

/-! ## Faults in plain contexts -/

section Faults

variable {α : Type} {type : Value}

theorem not_faults_rejectAs (h : ctx.Plain) {name : Value} (hn : name.IsPhrase)
    (ht : ∃ t, type = .text t) (reason : String) (errors : List Rejection) :
    ¬ (ctx.rejectAs name type (.text reason) errors : Outcome α).Faults := by
  obtain ⟨t, rfl⟩ := ht
  obtain ⟨message, hmessage⟩ := h.rejectAs (α := α) hn t reason errors
  rw [hmessage]
  exact Outcome.not_faults_rejected _

theorem not_faults_reject (h : ctx.Plain) (ht : ∃ t, type = .text t) (reason : String) :
    ¬ (ctx.reject type reason : Outcome α).Faults :=
  h.not_faults_rejectAs h.name ht reason []

/-- An input that is bad is rejected with a reason, unless the reason cannot be written. -/
theorem faults_rejectIf (h : ctx.Plain) (ht : ∃ t, type = .text t) {bad : Bool}
    {reason : Except Fault String} : (ctx.rejectIf bad type reason).Faults ↔
      bad = true ∧ ∃ fault, reason = .error fault := by
  rw [rejectIf]
  cases bad with
  | false => simp
  | true =>
    simp only [if_true, Outcome.faults_bind, Outcome.faults_ofFault, true_and, or_iff_left_iff_imp]
    rintro ⟨text, -, hfaults⟩
    exact absurd hfaults (h.not_faults_reject ht text)

end Faults

end Plain

end Context

theorem faults_checkGiven {α : Type} {given : Option α} {check : α → Outcome Unit} :
    (checkGiven given check).Faults ↔ ∃ a ∈ given, (check a).Faults := by
  cases given <;> simp [checkGiven]

end Intake
