import Intake.Proofs.Faults.Schema
import Intake.Proofs.Leaf.Reasons
import Intake.Proofs.Leaf.Stock

/-!
# Schemas without options answer

A schema of leaves without options answers every mild input: it has a value for it or rejects it
with a reason.  A union of such schemas therefore goes through all of its candidates.

## Main definitions

* `Outcome.Answered` — a value, or a rejection with a reason.
* `Schema.Stock` — the nodes without options.
* `Schema.Calm` — the nodes whose samples no other node has trouble with.
* `Schema.AnswersMild` — a schema that answers mild inputs.

## Main statements

* `Leaf.answered_parse` — leaves without options answer.
* `Schema.answersMild` — so do the schemas above them.
-/

namespace Intake

open Numeric (Number TooLong)

variable {α β : Type} {ctx : Context} {v : Value} {floats : Prop} {setting : Setting}

/-! ## Answers -/

namespace Outcome

/-- A computation has a value, or it ends in a rejection with a reason. -/
def Answered (x : Outcome α) : Prop :=
  (∃ a, x = .ok a) ∨ ∃ r, x = .error (.rejected r) ∧ r.Voiced

theorem answered_ok (a : α) : Answered (.ok a : Outcome α) := .inl ⟨a, rfl⟩

theorem answered_of_not_faults {x : Outcome α} (h : ¬ x.Faults)
    (hvoiced : x.RejectsWith Rejection.Voiced) : x.Answered :=
  (not_faults_iff.mp h).imp_right fun ⟨r, hr⟩ => ⟨r, hr, hvoiced r hr⟩

theorem Answered.bind {x : Outcome α} {f : α → Outcome β} (hx : x.Answered)
    (hf : ∀ a, x = .ok a → (f a).Answered) : (x >>= f).Answered := by
  rcases hx with ⟨a, rfl⟩ | ⟨r, rfl, hr⟩
  · exact hf a rfl
  · exact .inr ⟨r, rfl, hr⟩

theorem Answered.map {x : Outcome α} {f : α → β} (hx : x.Answered) : (f <$> x).Answered := by
  rcases hx with ⟨a, rfl⟩ | ⟨r, rfl, hr⟩
  · exact answered_ok (f a)
  · exact .inr ⟨r, rfl, hr⟩

theorem answered_mapM {f : α → Outcome β} {as : List α} (h : ∀ a ∈ as, (f a).Answered) :
    (as.mapM f).Answered := by
  induction as with
  | nil => exact answered_ok []
  | cons a as ih =>
    obtain ⟨ha, has⟩ := List.forall_mem_cons.mp h
    rw [List.mapM_cons]
    exact ha.bind fun b _ => (ih has).bind fun bs _ => answered_ok (b :: bs)

end Outcome

open Outcome (Answered answered_ok answered_of_not_faults)

section Rejections

variable {type : Value}

theorem Context.Plain.answered_reject (hctx : ctx.Plain) (htype : ∃ t, type = .text t)
    {reason : String} (hreason : reason ≠ "got ") : (ctx.reject type reason : Outcome α).Answered :=
  answered_of_not_faults (hctx.not_faults_reject htype reason) (ctx.voiced_reject hreason)

theorem Context.Plain.answered_rejectKind (hctx : ctx.Plain) (htype : ∃ t, type = .text t)
    (hv : v.Named) : (ctx.rejectKind type v : Outcome α).Answered :=
  answered_of_not_faults (hctx.not_faults_reject htype _) (ctx.voiced_rejectKind hv)

end Rejections

/-! ## Leaves -/

namespace Leaf

variable {leaf : Leaf}

/-- A leaf has a type if its fixed values can be written. -/
theorem exists_signature_of_calm (leaf : Leaf) (hcalm : leaf.Calm floats) :
    ∃ type, leaf.signature = .ok type := by
  cases leaf with
  | literal value => exact hcalm.json value List.mem_cons_self
  | values members nonempty =>
    obtain ⟨texts, htexts⟩ := Outcome.exists_mapM_eq_ok_iff.mpr hcalm.json
    exact ⟨_, Outcome.map_eq_ok.mpr ⟨texts, htexts, rfl⟩⟩
  | _ => exact ⟨_, rfl⟩

theorem sound_of_stock (h : leaf.Stock) (hcalm : leaf.Calm floats) : leaf.Sound setting.zone := by
  cases leaf with
  | string rule =>
    obtain rfl := h
    exact ⟨by simp, by simp, by simp⟩
  | url rule =>
    obtain rfl := h
    exact ⟨⟨by simp, by simp, by simp⟩, by simp, by simp, by simp⟩
  | email rule =>
    obtain rfl := h
    exact ⟨⟨by simp, by simp, by simp⟩, by simp⟩
  | number rule | int rule =>
    obtain rfl := h
    exact ⟨by simp, by simp, by simp⟩
  | float rule =>
    obtain rfl := h
    exact ⟨⟨by simp, by simp, by simp⟩, by simp, by simp⟩
  | date rule =>
    obtain rfl := h
    exact ⟨by simp, by simp⟩
  | dateString rule | timeString rule precision | timestamp rule precision =>
    obtain rfl := h
    rintro bound (hbound | hbound) <;> cases hbound
  | literal value => exact hcalm.json value List.mem_cons_self
  | values members nonempty =>
    exact Value.exists_json_list_iff.mpr (Outcome.exists_mapM_eq_ok_iff.mpr hcalm.json)
  | color | id | boolean asked => exact trivial
  | checkbox => exact h.elim

theorem not_breaks_text (hv : ∀ n, v = .int n → n.natAbs < 2 ^ 53) : ¬ TextRule.Breaks {} v := by
  rintro (⟨n, rfl, hlong⟩ | ⟨s, -, -, hchokes | ⟨-, p, hp, -⟩⟩)
  · exact Numeric.not_tooLong_of_lt (hv n rfl) hlong
  · simp [LengthChokes, Chokes] at hchokes
  · cases hp

theorem not_breaks_number {rule : NumberRule} (hrule : ∀ n, ¬ rule.BoundsChoke n)
    (hv : v.Mild floats) : ¬ rule.Breaks setting.locale v := by
  rintro (⟨-, s, rfl, hlong⟩ | ⟨n, -, hchokes⟩)
  · exact (hv.texts s .self).1 hlong
  · exact hrule _ hchokes

theorem not_boundsChoke_bare (n : Number) : ¬ NumberRule.BoundsChoke {} n := by
  simp [NumberRule.BoundsChoke, Chokes]

theorem not_boundsChoke_id (n : Number) : ¬ idRule.BoundsChoke n := by
  have hone : ¬ TooLong 1 := Numeric.not_tooLong_of_lt (by decide)
  rintro (⟨bound, hbound, hlong, -⟩ | ⟨-, bound, hbound, -⟩)
  · cases hbound
    exact hone hlong
  · cases hbound

/-- Where there are floats, mild values do not stand for integers that are too large for one. -/
theorem toBinary64?_ne_none (hv : v.Mild floats) (hfloats : floats) {n : Number}
    (hn : NumberRule.parse {} setting.locale v ctx = .ok n) : n.toBinary64? ≠ none := by
  obtain ⟨m, hread, rfl, -⟩ := NumberRule.parse_eq_ok_iff.mp hn
  cases m with
  | float x => simp [NumberRule.settled, Value.isTruthy, Number.withoutNoise, Number.toBinary64?]
  | int k =>
    intro hnone
    have hlarge : Numeric.Binary64.ofInt? k = none := hnone
    unfold NumberRule.read at hread
    split at hread
    · split at hread
      · simp at hread
      · cases hread
        exact Numeric.ofInt?_ne_none_of_lt (hv.integers k .self) hlarge
    · split at hread
      · simp at hread
      · rename_i s _
        have hwrites : Numeric.readNumber s = .ok (some (.int k)) := by
          unfold NumberRule.readText at hread
          rw [if_neg (by simp [Value.isTruthy])] at hread
          split at hread
          · cases hread
            assumption
          · simp at hread
          · cases hread
        exact (hv.texts s .self).2 hfloats ⟨k, hwrites, hlarge⟩
    · simp at hread

theorem not_breaks_float (hv : v.Mild floats) (hfloats : floats) :
    ¬ FloatRule.Breaks {} setting.locale v := by
  rintro (hbreaks | ⟨n, hn, hnone | ⟨x, -, hfar⟩⟩)
  · exact not_breaks_number not_boundsChoke_bare hv hbreaks
  · exact toBinary64?_ne_none hv hfloats hn hnone
  · simp [FloatRule.GoesTooFar] at hfar

/-- Leaves without options have no trouble with mild values. -/
theorem not_breaks_of_mild (h : leaf.Stock) (hcalm : leaf.Calm floats) (hv : v.Mild floats) :
    ¬ leaf.Breaks setting v := by
  have hint : ∀ n, v = .int n → n.natAbs < 2 ^ 53 := by
    rintro n rfl
    exact hv.integers n .self
  cases leaf with
  | string rule =>
    obtain rfl := h
    exact not_breaks_text hint
  | url rule =>
    obtain rfl := h
    exact fun hbreaks => not_breaks_text hint hbreaks.2
  | email rule =>
    obtain rfl := h
    exact fun hbreaks => not_breaks_text hint hbreaks.2
  | number rule | int rule =>
    obtain rfl := h
    exact not_breaks_number not_boundsChoke_bare hv
  | float rule =>
    obtain rfl := h
    exact not_breaks_float hv (hcalm.float _ rfl)
  | id => exact not_breaks_number not_boundsChoke_id hv
  | values members nonempty =>
    rintro ⟨-, n, hn, hlong⟩
    exact Numeric.not_tooLong_of_lt (hint n hn) hlong
  | date rule =>
    obtain rfl := h
    rintro ⟨m, -, hbound⟩
    simp at hbound
  | _ => exact not_false

/-- A leaf without options has a value for a mild input or rejects it with a reason. -/
theorem answered_parse (h : leaf.Stock) (hcalm : leaf.Calm floats) (hv : v.Mild floats)
    (hctx : ctx.Plain) : (leaf.parse setting v ctx).Answered := by
  have hnotFaults : ¬ (leaf.parse setting v ctx).Faults := fun hfaults =>
    not_breaks_of_mild h hcalm hv ((faults_parse_iff (sound_of_stock h hcalm) hctx).mp hfaults)
  refine answered_of_not_faults hnotFaults ?_
  cases leaf with
  | string rule => exact (TextRule.voiced_parse hv.named).map _
  | url rule => exact (UrlRule.voiced_parse hv.named).map _
  | email rule => exact (EmailRule.voiced_parse hv.named).map _
  | color => exact (voiced_parseColor hv.named).map _
  | number rule => exact (NumberRule.voiced_parse hv.named).map _
  | float rule => exact (FloatRule.voiced_parse hv.named).map _
  | int rule => exact (NumberRule.voiced_parseInt hv.named).map _
  | id => exact (NumberRule.voiced_parseInt hv.named).map _
  | boolean asked => exact (voiced_parseBoolean hv.named).map _
  | literal value => exact voiced_parseLiteral hv.named
  | values members nonempty => exact voiced_parseMember hv.named
  | date rule =>
    obtain rfl := h
    exact (DateRule.voiced_parse hv.named).map _
  | dateString rule =>
    obtain rfl := h
    exact (SpanRule.voiced_parse (voiced_readDateText hv.named)).map _
  | timeString rule precision =>
    obtain rfl := h
    exact (SpanRule.voiced_parse (voiced_readTimeText hv.named)).map _
  | timestamp rule precision =>
    obtain rfl := h
    exact (SpanRule.voiced_parse (voiced_readStampText hv.named)).map _
  | checkbox => exact h.elim

/-- A key is read as text, whatever digits it has. -/
theorem answered_parse_key (hnamed : v.Named) (hint : ∀ n, v = .int n → n.natAbs < 2 ^ 53)
    (hctx : ctx.Plain) : ((Leaf.string {}).parse setting v ctx).Answered := by
  have hsound : TextRule.Sound {} := ⟨by simp, by simp, by simp⟩
  refine (answered_of_not_faults (fun hfaults => ?_) (TextRule.voiced_parse hnamed)).map
  exact not_breaks_text hint ((TextRule.faults_parse hsound hctx).mp hfaults)

end Leaf

/-! ## Nodes -/

/-- An array of any length has the items of its input, or the input itself. -/
theorem ArrayRule.answered_items {rule : ArrayRule} (hmin : rule.minLength = none)
    (hmax : rule.maxLength = none) (hv : v.Named) (hctx : ctx.Plain) :
    (rule.items v ctx).Answered := by
  rw [items_eq, hmin, hmax]
  split
  · exact answered_ok _
  · exact hctx.answered_rejectKind (hctx.expected "array") hv

theorem ArrayRule.mild_of_items {rule : ArrayRule} {items : List Value} (hv : v.Mild floats)
    (h : rule.items v ctx = .ok items) : ∀ item ∈ items, item.Mild floats := by
  rcases (ArrayRule.items_eq_ok_iff.mp h).1 with hitems | ⟨-, -, rfl⟩
  · exact hv.of_items hitems
  · simpa using hv

theorem answered_parseEntries {parseKey parseValue : Value → Outcome Value}
    {entries parsed : List (Value × Value)}
    (hkeys : ∀ entry ∈ entries, (parseKey entry.1).Answered ∧
      ∀ k, parseKey entry.1 = .ok k → k.isHashable = true)
    (hvalues : ∀ entry ∈ entries, (parseValue entry.2).Answered) :
    (parseEntries parseKey parseValue entries parsed).Answered := by
  induction entries generalizing parsed with
  | nil => exact answered_ok parsed
  | cons entry entries ih =>
    obtain ⟨⟨hkey, hhash⟩, hkeys⟩ := List.forall_mem_cons.mp hkeys
    obtain ⟨hvalue, hvalues⟩ := List.forall_mem_cons.mp hvalues
    rw [parseEntries]
    refine hkey.bind fun k hk => hvalue.bind fun w _ => ?_
    rw [if_pos (hhash k hk)]
    exact ih hkeys hvalues

namespace Schema

variable {s : Schema} {samples : Option SampleOptions}

/-- The nodes without options: leaves without options, objects with keys of text, arrays of any
length, nullable and optional values, unions of something, and dictionaries with texts as keys. -/
def Stock : Schema → Prop
  | .leaf atom _ => atom.Stock
  | .object fields _ => (∀ field ∈ fields, ∃ key, field.1 = .text key) ∧ Entries.Distinct fields
  | .array _ rule _ => rule.minLength = none ∧ rule.maxLength = none
  | .nullable .. | .optional _ => True
  | .union candidates _ => candidates ≠ []
  | .dict key _ _ => ∃ samples, key = .leaf (.string {}) samples
  | .custom _ | .single _ | .plain _ => False

/-- The nodes whose samples no other node has trouble with. -/
def Calm (floats : Prop) : Schema → Prop
  | .leaf atom _ => atom.Calm floats
  | _ => True

theorem require_of_stock (h : s.Stock) : s.require = .ok () := by
  cases s with
  | plain v => exact h.elim
  | _ => rfl

theorem fields_of_stock {fields : List (Value × Schema)}
    (hs : (object fields samples).Every Stock) :
    ∀ field ∈ fields, (∃ key, field.1 = .text key) ∧ field.2.require = .ok () := fun field hfield =>
  ⟨hs.here.1 field hfield, require_of_stock (hs.of_mem (mem_parts_of_mem_fields hfield)).here⟩

theorem typed_of_stock (h : s.Stock) (hcalm : s.Calm floats) : s.Typed := by
  cases s with
  | leaf atom samples =>
    obtain ⟨type, htype⟩ := atom.exists_signature_of_calm hcalm
    exact ⟨type, htype, Leaf.signature_ne_empty htype⟩
  | object fields samples => exact h.1
  | union candidates samples => exact h
  | custom rule => exact h.elim
  | plain v => exact h
  | _ => exact trivial

theorem every_typed_of_stock (hs : s.Every Stock) (hcalm : s.Every (Calm floats)) :
    s.Every Typed :=
  (hs.and hcalm).imp fun _ h => typed_of_stock h.1 h.2

theorem answered_parseFields {fields : List (Value × Schema)} {entries : List (Value × Value)}
    (hctx : ctx.Plain)
    (hfields : ∀ field ∈ fields, (∃ key, field.1 = .text key) ∧ field.2.require = .ok ())
    (hparts : ∀ field ∈ fields, ∀ v inner, Entries.get? field.1 entries = some v → inner.Plain →
      (field.2.parse setting v inner).Answered) :
    (parseFields setting fields entries ctx).Answered := by
  induction fields with
  | nil => exact answered_ok []
  | cons field fields ih =>
    obtain ⟨⟨⟨key, hkey⟩, hrequire⟩, hlater⟩ := List.forall_mem_cons.mp hfields
    obtain ⟨hpart, hparts⟩ := List.forall_mem_cons.mp hparts
    have hrest := ih hlater hparts
    obtain ⟨_, s⟩ := field
    obtain rfl : _ = Value.text key := hkey
    rw [parseFields]
    split
    · exact hrest
    · exact hrest.bind fun rest _ => answered_ok _
    · rename_i v hgiven
      obtain ⟨inner, hinner, hplain⟩ := hctx.child key
      have hget := (Presence.of_eq_given.mp hgiven).1
      rw [hrequire, hinner]
      exact (hpart v inner hget hplain).bind fun w _ => hrest.bind fun rest _ => answered_ok _
    · exact hctx.answered_reject (hctx.expected "object") (by simp [String.ext_iff])

/-- Candidates that answer and have types are gone through one by one. -/
theorem answered_parseFirst {candidates : List Schema}
    (h : ∀ s ∈ candidates, (s.parse setting v ctx).Answered ∧ ∃ type, s.typeText = .ok type) :
    ∃ first, parseFirst setting candidates v ctx = .ok first ∧
      ∀ rs, first = .error rs → ∀ r ∈ rs, r.Voiced := by
  induction candidates with
  | nil => exact ⟨.error [], rfl, by simp⟩
  | cons s candidates ih =>
    obtain ⟨⟨hs, type, htype⟩, hrest⟩ := List.forall_mem_cons.mp h
    obtain ⟨first, hfirst, hvoiced⟩ := ih hrest
    rw [parseFirst]
    rcases hs with ⟨w, hw⟩ | ⟨r, hr, hvoice⟩
    · rw [hw]
      exact ⟨.ok w, rfl, by simp⟩
    · simp only [hr, htype, hfirst, Outcome.ofFault_ok, Outcome.ok_bind]
      cases first with
      | ok w => exact ⟨.ok w, rfl, by simp⟩
      | error rs =>
        refine ⟨.error (r :: rs), rfl, fun _ heq => ?_⟩
        cases heq
        exact List.forall_mem_cons.mpr ⟨hvoice, hvoiced rs rfl⟩

theorem answered_rejectUnion {type : String} {rs : List Rejection} (hctx : ctx.Plain)
    (h : ∀ r ∈ rs, r.Voiced) : (rejectUnion ctx (.ok type) rs).Answered := by
  refine answered_of_not_faults (not_faults_rejectUnion hctx h) ?_
  obtain ⟨reason, hreason, hne⟩ := exists_unionReason fun r hr => (h r hr).toSays
  rw [rejectUnion, hreason]
  exact ctx.voiced_reject hne

/-- A schema that answers mild inputs in contexts of text. -/
def AnswersMild (floats : Prop) (setting : Setting) (s : Schema) : Prop :=
  ∀ ⦃v ctx⦄, v.Mild floats → ctx.Plain → (s.parse setting v ctx).Answered

theorem answersMild_object {fields : List (Value × Schema)}
    (hfields : ∀ field ∈ fields, (∃ key, field.1 = .text key) ∧ field.2.require = .ok ())
    (h : ∀ field ∈ fields, field.2.AnswersMild floats setting) :
    (object fields samples).AnswersMild floats setting := by
  intro v ctx hv hctx
  cases v with
  | dict entries =>
    refine (answered_parseFields hctx hfields fun field hfield w inner hget hinner => ?_).map
    exact h field hfield (hv.of_get? hget) hinner
  | _ => exact hctx.answered_rejectKind (hctx.expected "object") hv.named

theorem answersMild_array {item : Schema} {rule : ArrayRule} (hmin : rule.minLength = none)
    (hmax : rule.maxLength = none) (h : item.AnswersMild floats setting) :
    (array item rule samples).AnswersMild floats setting := by
  intro v ctx hv hctx
  obtain ⟨inner, hplain, hparse⟩ := exists_parse_array hctx
  rw [hparse]
  refine (ArrayRule.answered_items hmin hmax hv.named hctx).bind fun items hitems => ?_
  refine (Outcome.answered_mapM fun e he => ?_).map
  exact h (ArrayRule.mild_of_items hv hitems e he) hplain

theorem answersMild_nullable {inner : Schema} (hrequire : inner.require = .ok ())
    (h : inner.AnswersMild floats setting) :
    (nullable inner samples).AnswersMild floats setting := by
  intro v ctx hv hctx
  rcases parse_nullable_cases hrequire hctx with ⟨-, hparse⟩ | ⟨-, ctx', hplain, hparse⟩
  · exact .inl ⟨.null, hparse⟩
  · rw [hparse]
    exact h hv hplain

theorem answersMild_union {candidates : List Schema}
    (htyped : (union candidates samples).Every Typed)
    (h : ∀ s ∈ candidates, s.AnswersMild floats setting) :
    (union candidates samples).AnswersMild floats setting := by
  intro v ctx hv hctx
  have hcandidates : ∀ s ∈ candidates, (s.parse setting v ctx.candidate).Answered ∧
      ∃ type, s.typeText = .ok type := fun s hs =>
    ⟨h s hs hv hctx.candidate, exists_typeText_of_typed (htyped.of_mem hs)⟩
  obtain ⟨first, hfirst, hvoiced⟩ := answered_parseFirst hcandidates
  obtain ⟨type, htype, -⟩ := exists_signature_of_typed htyped
  rw [parse, hfirst]
  cases first with
  | ok w => exact answered_ok w
  | error rs =>
    rw [htype]
    exact answered_rejectUnion hctx (hvoiced rs rfl)

/-- The keys of a dictionary are not mild, but they are read as text. -/
theorem answersMild_dict {value : Schema} {keySamples : Option SampleOptions}
    (h : value.AnswersMild floats setting) :
    (dict (leaf (.string {}) keySamples) value samples).AnswersMild floats setting := by
  intro v ctx hv hctx
  cases v with
  | dict entries =>
    obtain ⟨keyContext, valueContext, hkeyPlain, hvaluePlain, hparse⟩ := exists_parse_dict hctx
    rw [hparse]
    refine (answered_parseEntries (fun entry hentry => ⟨?_, fun k hk => ?_⟩)
      fun entry hentry => ?_).map
    · refine Leaf.answered_parse_key (hv.named.of_entries hentry).1 (fun n hn => ?_) hkeyPlain
      exact hv.integers n (.key hentry (hn ▸ .self))
    · obtain ⟨s, -, rfl⟩ := Outcome.map_eq_ok.mp hk
      rfl
    · exact h (hv.of_entries hentry) hvaluePlain
  | _ =>
    exact (hctx.overriding_expected _).answered_rejectKind (hctx.expected _) hv.named

/-- A schema without options has a value for a mild input or rejects it with a reason. -/
theorem answersMild (hs : s.Every Stock) (hcalm : s.Every (Calm floats)) :
    s.AnswersMild floats setting := by
  have htyped := every_typed_of_stock hs hcalm
  induction hs with
  | @node s here below ih =>
    have hpart : ∀ part ∈ s.parts, part.AnswersMild floats setting := fun part hpart =>
      ih part hpart (hcalm.of_mem hpart) (htyped.of_mem hpart)
    cases s with
    | leaf atom samples => exact fun v ctx => atom.answered_parse here hcalm.here
    | object fields samples =>
      exact answersMild_object (fields_of_stock (.node here below)) fun field hfield =>
        hpart _ (mem_parts_of_mem_fields hfield)
    | array item rule samples =>
      exact answersMild_array here.1 here.2 (hpart item (by simp [parts]))
    | nullable inner samples =>
      exact answersMild_nullable (require_of_stock (below inner (by simp [parts])).here)
        (hpart inner (by simp [parts]))
    | optional inner => exact hpart inner (by simp [parts])
    | union candidates samples => exact answersMild_union htyped hpart
    | dict key value samples =>
      obtain ⟨keySamples, rfl⟩ := here
      exact answersMild_dict (hpart value (by simp [parts]))
    | custom rule | single item | plain v => exact here.elim

end Schema

end Intake
