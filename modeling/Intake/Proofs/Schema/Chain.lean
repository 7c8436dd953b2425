import Intake.Proofs.Schema.Paths

/-!
# Words along chains of wrappers

An array and a schema that also takes null hand an input on with their own words put before those
that they were given.  So the words before the expected type come in the order of the wrappers from
the inside out, and read like the schema only where that is the same the other way round.

## Main definitions

* `spaced` — phrases with spaces between.
* `Wrapper`, `chain` — arrays and schemas that also take null, around another schema.
* `Context.Worded` — the phrases of a context.

## Main statements

* `Wrapper.worded_of_context` — the phrases that a wrapper adds.
* `Leads.worded` — the phrases at the end of a chain.
* `Leads.error` — a path hands on the failure at its end.
* `Schema.words_of_chain` — the words in a rejection at the end of a chain.
-/

namespace Intake

open Outcome (bind_eq_ok)

/-! ## Phrases -/

/-- Phrases with spaces between, nothing where there are none. -/
def spaced (phrases : List String) : Value :=
  match phrases with
  | [] => .null
  | phrases => .text (joinWith " " phrases)

section Phrases

variable {ps qs : List String}

theorem spaced_of_ne_nil (h : ps ≠ []) : spaced ps = .text (joinWith " " ps) := by
  cases ps with
  | nil => contradiction
  | cons p ps => rfl

theorem isTruthy_spaced (h : ∀ p ∈ ps, p ≠ "") : (spaced ps).isTruthy = !ps.isEmpty := by
  cases ps with
  | nil => rfl
  | cons p ps =>
    have hne : joinWith " " (p :: ps) ≠ "" := joinWith_ne_empty (List.cons_ne_nil p ps) h
    simp [spaced, Value.isTruthy, hne]

/-- Phrases are put together to all of them. -/
theorem joinPhrases_spaced (hps : ∀ p ∈ ps, p ≠ "") (hqs : ∀ q ∈ qs, q ≠ "") :
    joinPhrases (spaced ps) (spaced qs) = .ok (spaced (ps ++ qs)) := by
  rw [joinPhrases, isTruthy_spaced hps, isTruthy_spaced hqs]
  by_cases hp : ps = []
  · simp [hp]
  · by_cases hq : qs = []
    · simp [hp, hq]
    · have hjoin : joinWith " " ps ++ " " ++ joinWith " " qs = joinWith " " (ps ++ qs) := by
        rw [joinWith, joinWith, joinWith, String.intercalate_append_of_ne_nil hp hq]
      have hne : ps ++ qs ≠ [] := by simp [hp]
      rw [spaced_of_ne_nil hp, spaced_of_ne_nil hq, spaced_of_ne_nil hne, ← hjoin]
      simp [hp, hq, phraseText]

theorem spaced_singleton (p : String) : spaced [p] = .text p := by
  simp [spaced, joinWith]

theorem joinPhrases_text_spaced {p : String} (hp : p ≠ "") (hps : ∀ p ∈ ps, p ≠ "") :
    joinPhrases (.text p) (spaced ps) = .ok (spaced (p :: ps)) := by
  rw [← spaced_singleton p]
  exact joinPhrases_spaced (by simpa using hp) hps

theorem joinPhrases_spaced_text {p : String} (hp : p ≠ "") (hps : ∀ p ∈ ps, p ≠ "") :
    joinPhrases (spaced ps) (.text p) = .ok (spaced (ps ++ [p])) := by
  rw [← spaced_singleton p]
  exact joinPhrases_spaced hps (by simpa using hp)

end Phrases

/-! ## Wrappers -/

/-- An array of another schema, or the schema that also takes null. -/
inductive Wrapper where
  | array (rule : ArrayRule) (samples : Option SampleOptions)
  | nullable (samples : Option SampleOptions)

namespace Wrapper

/-- A schema in a wrapper. -/
def around : Wrapper → Schema → Schema
  | .array rule samples, s => .array s rule samples
  | .nullable samples, s => .nullable s samples

/-- What a wrapper says before the expected type. -/
def phrase : Wrapper → String
  | .array .. => "array of"
  | .nullable _ => "nullable"

/-- What a wrapper says behind the reason, if anything. -/
def places : Wrapper → List String
  | .array .. => ["in array"]
  | .nullable _ => []

/-- The context that a wrapper hands on. -/
def context : Wrapper → Context → Except Fault Context
  | .array .. => Context.item
  | .nullable _ => Context.nonNull

end Wrapper

/-- A schema in wrappers, the outermost of them first. -/
def chain (ws : List Wrapper) (s : Schema) : Schema :=
  ws.foldr Wrapper.around s

/-- A context has the given phrases to put before the expected type and behind the reason. -/
structure Context.Worded (before behind : List String) (ctx : Context) : Prop where
  typePrefix : ctx.typePrefix = spaced before
  reasonSuffix : ctx.reasonSuffix = spaced behind
  ne_empty : ∀ p ∈ before ++ behind, p ≠ ""

theorem Context.worded_root : Context.Worded [] [] .root :=
  ⟨rfl, rfl, by simp⟩

namespace Wrapper

variable {w : Wrapper} {before behind : List String} {ctx inner : Context}

/-- A wrapper puts its phrase before those that there are, and its place behind them. -/
theorem worded_of_context (h : w.context ctx = .ok inner) (hctx : ctx.Worded before behind) :
    inner.Worded (w.phrase :: before) (behind ++ w.places) := by
  obtain ⟨htype, hreason, hne⟩ := hctx
  have hbefore : ∀ p ∈ before, p ≠ "" := fun p hp => hne p (List.mem_append_left _ hp)
  have hbehind : ∀ p ∈ behind, p ≠ "" := fun p hp => hne p (List.mem_append_right _ hp)
  cases w with
  | array rule samples =>
    rw [context, Context.item, htype, hreason, joinPhrases_text_spaced (by simp) hbefore,
      joinPhrases_spaced_text (by simp) hbehind] at h
    cases h
    exact ⟨rfl, rfl, by simpa [phrase, places, or_imp, forall_and] using ⟨hbefore, hbehind⟩⟩
  | nullable samples =>
    rw [context, Context.nonNull, htype, joinPhrases_text_spaced (by simp) hbefore] at h
    cases h
    refine ⟨rfl, ?_, by simpa [phrase, places, or_imp, forall_and] using ⟨hbefore, hbehind⟩⟩
    rw [places, List.append_nil]
    exact hreason

end Wrapper

/-! ## Paths along chains -/

section Paths

variable {setting : Setting} {w : Wrapper} {ws : List Wrapper} {s : Schema} {v x : Value}
  {ctx last : Context} {keys : List String} {d : Call}

/-- A step from a wrapper leads to what is in it, in the context that the wrapper hands on. -/
theorem Passes.of_around (h : Passes setting ⟨w.around s, v, ctx⟩ keys d) :
    d.schema = s ∧ w.context ctx = .ok d.context := by
  cases w with
  | array rule samples =>
    cases h with
    | part call _ =>
      cases call with
      | item _ context => exact ⟨rfl, context⟩
  | nullable samples =>
    cases h with
    | part call _ =>
      cases call with
      | nonNull _ context => exact ⟨rfl, context⟩

/-- A path to another call starts with a step. -/
theorem Leads.exists_step {c e : Call} (h : Leads setting c keys e) (hne : c ≠ e) :
    ∃ now rest d, Passes setting c now d ∧ Leads setting d rest e := by
  cases h with
  | here => exact absurd rfl hne
  | step passes leads => exact ⟨_, _, _, passes, leads⟩

/-- At the end of a chain the phrases of the wrappers stand before those of the start, the innermost
of them first, and their places behind, the innermost of them last. -/
theorem Leads.worded {atom : Leaf} {samples : Option SampleOptions} {before behind : List String}
    (h : Leads setting ⟨chain ws (.leaf atom samples), v, ctx⟩ keys ⟨.leaf atom samples, x, last⟩)
    (hctx : ctx.Worded before behind) :
    last.Worded ((ws.map Wrapper.phrase).reverse ++ before)
      (behind ++ ws.flatMap Wrapper.places) := by
  induction ws generalizing v ctx keys before behind with
  | nil =>
    cases h with
    | here => simpa using hctx
    | step passes _ => cases passes with | part call _ => cases call
  | cons w ws ih =>
    have hne : w.around (chain ws (.leaf atom samples)) ≠ .leaf atom samples := by
      cases w <;> simp [Wrapper.around]
    obtain ⟨keys, rest, ⟨_, input, inner⟩, hpasses, hleads⟩ :=
      h.exists_step fun heq => hne (congrArg Call.schema heq)
    obtain ⟨rfl, hinner⟩ := hpasses.of_around
    have hlast := ih hleads (Wrapper.worded_of_context hinner hctx)
    rw [List.append_assoc] at hlast
    rwa [List.map_cons, List.reverse_cons, List.append_assoc, List.flatMap_cons]

end Paths

/-! ## Phrases in the order of the wrappers -/

theorem joinWith_cons_eq (p : String) (ps : List String) :
    joinWith " " (p :: ps) = p ++ if ps = [] then "" else " " ++ joinWith " " ps := by
  by_cases hps : ps = []
  · simp [hps, joinWith]
  · simp [hps, joinWith, String.intercalate_cons_of_ne_nil, String.append_assoc]

/-- The first letter tells the phrases of wrappers apart. -/
theorem Wrapper.phrase_eq_of_append {w u : Wrapper} {a b : String}
    (h : w.phrase ++ a = u.phrase ++ b) : w.phrase = u.phrase := by
  have hfirst := congrArg (fun s : String => s.toList.head?) h
  cases w <;> cases u <;> simp [phrase] at hfirst ⊢

/-- Wrappers whose phrases read the same with spaces between have the same phrases. -/
theorem spaced_phrases_inj {ws us : List Wrapper}
    (h : spaced (ws.map Wrapper.phrase) = spaced (us.map Wrapper.phrase)) :
    ws.map Wrapper.phrase = us.map Wrapper.phrase := by
  induction ws generalizing us with
  | nil =>
    cases us with
    | nil => rfl
    | cons u us => cases h
  | cons w ws ih =>
    cases us with
    | nil => cases h
    | cons u us =>
      have hjoin : joinWith " " ((w :: ws).map Wrapper.phrase) =
          joinWith " " ((u :: us).map Wrapper.phrase) := Value.text.inj h
      rw [List.map_cons, List.map_cons, joinWith_cons_eq, joinWith_cons_eq] at hjoin
      have hphrase := Wrapper.phrase_eq_of_append hjoin
      rw [hphrase, String.append_right_inj] at hjoin
      rw [List.map_cons, List.map_cons, hphrase]
      congr 1
      refine ih ?_
      by_cases hws : ws.map Wrapper.phrase = []
      · by_cases hus : us.map Wrapper.phrase = []
        · rw [hws, hus]
        · rw [if_pos hws, if_neg hus] at hjoin
          simp at hjoin
      · by_cases hus : us.map Wrapper.phrase = []
        · rw [if_neg hws, if_pos hus] at hjoin
          simp at hjoin
        · rw [if_neg hws, if_neg hus, String.append_right_inj] at hjoin
          rw [spaced_of_ne_nil hws, spaced_of_ne_nil hus, hjoin]

namespace Schema

variable {setting : Setting} {atom : Leaf} {samples : Option SampleOptions} {ws : List Wrapper}
  {v x : Value} {ctx : Context} {keys : List String} {r : Rejection}

theorem every_locatable_chain {zone : Calendar.Zone} (hatom : atom.BoundsHold zone) :
    (chain ws (.leaf atom samples)).Every (Locatable zone) := by
  induction ws with
  | nil => simpa [chain, Locatable] using hatom
  | cons w ws ih => cases w <;> simpa [chain, Wrapper.around, Locatable] using ih

/-- What a leaf at the end of a chain rejects, the whole schema rejects with the words of the leaf:
before the expected type stand the phrases of the wrappers, the innermost of them first, and behind
the reason one place for each array.  The phrases are those from the outside in only if that is the
same the other way round. -/
theorem words_of_chain (hatom : atom.BoundsHold setting.zone)
    (hleads : Leads setting ⟨chain ws (.leaf atom samples), v, .root⟩ keys
      ⟨.leaf atom samples, x, ctx⟩)
    (hr : atom.parse setting x ctx = .error (.rejected r)) :
    (chain ws (.leaf atom samples)).parse setting v .root = .error (.rejected r) ∧
    r.typePrefix = spaced (ws.map Wrapper.phrase).reverse ∧
    r.reasonSuffix = spaced (ws.flatMap Wrapper.places) ∧
    (r.typePrefix = spaced (ws.map Wrapper.phrase) ↔
      (ws.map Wrapper.phrase).reverse = ws.map Wrapper.phrase) := by
  have hc : Call.Located setting.zone ⟨chain ws (.leaf atom samples), v, .root⟩ :=
    ⟨every_locatable_chain hatom, Context.plain_root, by simp [Context.root]⟩
  have hworded := hleads.worded Context.worded_root
  obtain ⟨htype, hreason⟩ := Leaf.words_of_parse hatom hr
  have htype : r.typePrefix = spaced (ws.map Wrapper.phrase).reverse := by
    rw [htype, hworded.typePrefix, List.append_nil]
  have hreason : r.reasonSuffix = spaced (ws.flatMap Wrapper.places) := by
    rw [hreason, hworded.reasonSuffix, List.nil_append]
  refine ⟨hleads.error hc hr, htype, hreason, ?_⟩
  rw [htype]
  constructor
  · intro h
    rw [← List.map_reverse] at h ⊢
    exact spaced_phrases_inj h
  · intro h
    rw [h]

/-- An array of whole numbers that may be null. -/
def maybeInts : List Wrapper :=
  [.array {} none, .nullable none]

/-- The context of the whole numbers. -/
def maybeIntContext : Context where
  typePrefix := .text "nullable array of"
  reasonSuffix := .text "in array"

theorem leads_maybeInts : Leads "en"
    ⟨chain maybeInts (.leaf (.int {}) none), .list [.text "x"], .root⟩ []
    ⟨.leaf (.int {}) none, .text "x", maybeIntContext⟩ := by
  have hitems : ArrayRule.items {} (.list [.text "x"]) .root = .ok ([] ++ .text "x" :: []) := rfl
  have hcontext : Context.nonNull
      { typePrefix := .text "array of", reasonSuffix := .text "in array" } =
        .ok maybeIntContext := rfl
  exact .step (.part (.item hitems rfl rfl) trivial)
    (.step (.part (.nonNull (by simp) hcontext) trivial) (.here _))

theorem words_of_chain_maybeInts :
    ∃ r, (chain maybeInts (.leaf (.int {}) none)).parse "en" (.list [.text "x"]) .root =
        .error (.rejected r) ∧
      r.typePrefix = .text "nullable array of" ∧ r.reasonSuffix = .text "in array" := by
  have hr : ∃ r, (Leaf.int {}).parse "en" (.text "x") maybeIntContext = .error (.rejected r) :=
    ⟨_, rfl⟩
  obtain ⟨r, hr⟩ := hr
  have hatom : (Leaf.int {}).BoundsHold .utc := trivial
  obtain ⟨hparse, htype, hreason, -⟩ := words_of_chain hatom leads_maybeInts hr
  exact ⟨r, hparse, htype, hreason⟩

/-- The words before the expected type are not always those of the schema: an array of numbers that
may be null is called a nullable array. -/
theorem not_forall_words_of_chain :
    ¬ ∀ (ws : List Wrapper) (atom : Leaf) (samples : Option SampleOptions) (v x : Value)
      (ctx : Context) (keys : List String) (r : Rejection), atom.BoundsHold .utc →
      Leads "en" ⟨chain ws (.leaf atom samples), v, .root⟩ keys ⟨.leaf atom samples, x, ctx⟩ →
      atom.parse "en" x ctx = .error (.rejected r) →
      r.typePrefix = spaced (ws.map Wrapper.phrase) := by
  intro hall
  have htype := hall maybeInts (.int {}) none _ _ _ _ _ trivial leads_maybeInts rfl
  have hread : Value.text "nullable array of" = .text "array of nullable" := htype
  simp at hread

end Schema

end Intake
