import Intake.Proofs.Schema.Accepts
import Intake.Proofs.Schema.Answered

/-!
# Schemas take in their samples

A schema without options accepts its own sample value.  It never rejects a random sample, whatever
is drawn, and it accepts the sample unless a candidate of a union has trouble with the sample of
another: with an integer that is too large for a binary number, with a fixed value that cannot be
written, or with a class without a name.

## Main definitions

* `Outcome.Unrejected` — a value, or a fault where there may be one.
* `Schema.Admits` — a value is not rejected in any context of text.
* `Schema.Concordant` — the unions whose candidates have no trouble with each other's samples.

## Main statements

* `Schema.admits_sampleValue`, `Schema.yields_randomSample` — samples by induction on the schema.
* `Schema.samples_accepted` — what becomes of the samples of a schema.
-/

namespace Intake

open Outcome (bind_eq_ok)

variable {α β : Type} {mayFault : Prop}

/-! ## What is not rejected -/

namespace Outcome

/-- A computation has a value, or it faults where it may. -/
def Unrejected (mayFault : Prop) (x : Outcome α) : Prop :=
  (∃ a, x = .ok a) ∨ mayFault ∧ x.Faults

theorem unrejected_ok (a : α) : Unrejected mayFault (.ok a : Outcome α) := .inl ⟨a, rfl⟩

theorem Unrejected.bind {x : Outcome α} {f : α → Outcome β} (hx : x.Unrejected mayFault)
    (hf : ∀ a, x = .ok a → (f a).Unrejected mayFault) : (x >>= f).Unrejected mayFault := by
  rcases hx with ⟨a, rfl⟩ | ⟨hmay, fault, rfl⟩
  · exact hf a rfl
  · exact .inr ⟨hmay, fault, rfl⟩

theorem Unrejected.map {x : Outcome α} {f : α → β} (hx : x.Unrejected mayFault) :
    (f <$> x).Unrejected mayFault := by
  rcases hx with ⟨a, rfl⟩ | ⟨hmay, fault, rfl⟩
  · exact unrejected_ok (f a)
  · exact .inr ⟨hmay, fault, rfl⟩

theorem Unrejected.of_error {e : Failure} (h : Unrejected mayFault (.error e : Outcome α)) :
    Unrejected mayFault (.error e : Outcome β) := by
  rcases h with ⟨a, h⟩ | ⟨hmay, fault, h⟩ <;> cases h
  exact .inr ⟨hmay, fault, rfl⟩

theorem Unrejected.ne_rejected {x : Outcome α} (h : x.Unrejected mayFault) (r : Rejection) :
    x ≠ .error (.rejected r) := by
  rcases h with ⟨a, rfl⟩ | ⟨-, fault, rfl⟩ <;> simp

end Outcome

open Outcome (Unrejected unrejected_ok)

namespace Schema

variable {setting : Setting} {now : Calendar.Moment} {ctx : Context} {s : Schema} {v : Value}
  {samples : Option SampleOptions}

/-- A value is accepted in every context of text, or leads to a fault where there may be one. -/
def Admits (mayFault : Prop) (setting : Setting) (s : Schema) (v : Value) : Prop :=
  ∀ ctx : Context, ctx.Plain → (s.parse setting v ctx).Unrejected mayFault

/-! ## Nodes -/

/-- What goes by the keys of the fields of an object, one by one. -/
def FilledWith (P : Schema → Value → Prop) : List (Value × Schema) → List (Value × Value) → Prop :=
  List.Forall₂ fun field entry => entry.1 = field.1 ∧ P field.2 entry.2

/-- Where no keys are the same, each field finds its own entry. -/
theorem exists_get?_of_filledWith {P : Schema → Value → Prop} {fields : List (Value × Schema)}
    {entries : List (Value × Value)} (hdistinct : Entries.Distinct fields)
    (h : FilledWith P fields entries) {field : Value × Schema} (hfield : field ∈ fields) :
    ∃ w, Entries.get? field.1 entries = some w ∧ P field.2 w := by
  induction h with
  | nil => simp at hfield
  | @cons first entry fields entries hfirst _ ih =>
    obtain ⟨hnew, hlater⟩ := Entries.distinct_cons.mp hdistinct
    obtain ⟨key, w⟩ := entry
    obtain ⟨rfl, hw⟩ : key = first.1 ∧ P first.2 w := hfirst
    rw [Entries.get?]
    rcases List.mem_cons.mp hfield with rfl | hfield
    · exact ⟨w, by rw [Value.sameKey_refl]; rfl, hw⟩
    · rw [hnew field hfield]
      exact ih hlater hfield

theorem exists_field_of_filledWith {P : Schema → Value → Prop} {fields : List (Value × Schema)}
    {entries : List (Value × Value)} (h : FilledWith P fields entries) {entry : Value × Value}
    (hentry : entry ∈ entries) : ∃ field ∈ fields, entry.1 = field.1 ∧ P field.2 entry.2 := by
  induction h with
  | nil => simp at hentry
  | @cons field _ _ _ hfirst _ ih =>
    rcases List.mem_cons.mp hentry with rfl | hentry
    · exact ⟨field, List.mem_cons_self, hfirst⟩
    · obtain ⟨field', hfield', hP⟩ := ih hentry
      exact ⟨field', List.mem_cons_of_mem _ hfield', hP⟩

theorem admits_object {fields : List (Value × Schema)} {entries : List (Value × Value)}
    (hfields : ∀ field ∈ fields, (∃ key, field.1 = .text key) ∧ field.2.require = .ok ())
    (hdistinct : Entries.Distinct fields)
    (h : FilledWith (Admits mayFault setting) fields entries) :
    (object fields samples).Admits mayFault setting (.dict entries) := by
  intro ctx hctx
  rw [parse]
  cases hparse : parseFields setting fields entries ctx with
  | ok out => exact unrejected_ok _
  | error e =>
    obtain ⟨before, field, after, kept, rfl, -, hfails⟩ :=
      (parseFields_eq_error hctx hfields).mp hparse
    have hmem : field ∈ before ++ field :: after := by simp
    obtain ⟨w, hget, hw⟩ := exists_get?_of_filledWith hdistinct h hmem
    rcases hfails with ⟨v, inner, hgiven, hinner, hv⟩ | ⟨hmissing, -⟩
    · obtain ⟨key, hkey⟩ := (hfields field hmem).1
      have hplain : inner.Plain := hctx.of_child (hkey ▸ hinner)
      rw [(Presence.of_eq_given.mp hgiven).1] at hget
      cases hget
      exact (hv ▸ hw _ hplain : Unrejected mayFault (.error e : Outcome Value)).of_error.map
    · rw [(Presence.of_eq_missing.mp hmissing).1] at hget
      cases hget

theorem admits_array {item : Schema} {rule : ArrayRule} (hmin : rule.minLength = none)
    (hmax : rule.maxLength = none) (h : item.Admits mayFault setting v) :
    (array item rule samples).Admits mayFault setting (.list [v]) := by
  intro ctx hctx
  obtain ⟨inner, hplain, hparse⟩ := exists_parse_array hctx
  have hitems : rule.items (.list [v]) ctx = .ok [v] := by
    refine rule.items_list ?_
    rw [hmin, hmax]
    exact ⟨clears_none _, clears_none _⟩
  rw [hparse, hitems]
  simp only [Outcome.ok_bind, List.mapM_cons, List.mapM_nil]
  exact ((h inner hplain).bind fun w _ => unrejected_ok _).map

theorem admits_nullable {inner : Schema} (hrequire : inner.require = .ok ())
    (h : v = .null ∨ inner.Admits mayFault setting v) :
    (nullable inner samples).Admits mayFault setting v := by
  intro ctx hctx
  rcases parse_nullable_cases hrequire hctx with ⟨-, hparse⟩ | ⟨hnull, ctx', hplain, hparse⟩
  · exact .inl ⟨.null, hparse⟩
  · rw [hparse]
    exact h.resolve_left hnull ctx' hplain

theorem admits_dict {value : Schema} {keySamples : Option SampleOptions} {k : String} {w : Value}
    (h : value.Admits mayFault setting w) :
    (dict (.leaf (.string {}) keySamples) value samples).Admits mayFault setting
      (.dict [(.text k, w)]) := by
  intro ctx hctx
  obtain ⟨keyContext, valueContext, -, hplain, hparse⟩ := exists_parse_dict hctx
  rw [hparse]
  simp only [parse, parseEntries, Leaf.parse_string, Outcome.ok_bind]
  exact ((h valueContext hplain).bind fun w _ => unrejected_ok _).map

/-- A union whose candidates have all rejected has candidates that have. -/
theorem exists_rejected_of_parseFirst {candidates : List Schema} {rs : List Rejection}
    (h : parseFirst setting candidates v ctx = .ok (.error rs)) (hs : s ∈ candidates) :
    ∃ r, s.parse setting v ctx = .error (.rejected r) := by
  induction candidates generalizing rs with
  | nil => simp at hs
  | cons first candidates ih =>
    obtain ⟨r, -, rest, hr, -, hrest, -⟩ := parseFirst_cons_eq_rejected.mp h
    rcases List.mem_cons.mp hs with rfl | hs
    · exact ⟨r, hr⟩
    · exact ih hrest hs

/-- A union admits what one of its candidates does, if no candidate faults before that. -/
theorem admits_union {candidates : List Schema} (hs : s ∈ candidates)
    (h : s.Admits mayFault setting v)
    (hothers : mayFault ∨ ∀ ctx : Context, ctx.Plain →
      ∃ first, parseFirst setting candidates v ctx = .ok first) :
    (union candidates samples).Admits mayFault setting v := by
  intro ctx hctx
  have hadmits := h ctx.candidate hctx.candidate
  rw [parse]
  cases hfirst : parseFirst setting candidates v ctx.candidate with
  | ok first =>
    cases first with
    | ok w => exact unrejected_ok w
    | error rs =>
      obtain ⟨r, hr⟩ := exists_rejected_of_parseFirst hfirst hs
      exact absurd hr (hadmits.ne_rejected r)
  | error e =>
    rcases hothers with hmay | hothers
    · cases e with
      | rejected r => exact absurd hfirst parseFirst_ne_rejected
      | faulted fault => exact .inr ⟨hmay, fault, rfl⟩
    · obtain ⟨first, hok⟩ := hothers ctx.candidate hctx.candidate
      cases hok.symm.trans hfirst

/-! ## Sample values -/

theorem filledWith_fieldSamples {P : Schema → Value → Prop} {fields : List (Value × Schema)}
    (h : ∀ field ∈ fields, P field.2 field.2.sampleValue) :
    FilledWith P fields (fieldSamples fields) := by
  induction fields with
  | nil => exact .nil
  | cons field fields ih =>
    obtain ⟨hfield, hfields⟩ := List.forall_mem_cons.mp h
    exact .cons ⟨rfl, hfield⟩ (ih hfields)

/-- A schema without options accepts its sample value: a union does so by its first candidate. -/
theorem admits_sampleValue (hs : s.Every Stock) (hsamples : s.Every (·.samples = none)) :
    s.Admits False setting s.sampleValue := by
  induction hs with
  | @node s here below ih =>
    have hpart : ∀ part ∈ s.parts, part.Admits False setting part.sampleValue := fun part hpart =>
      ih part hpart (hsamples.of_mem hpart)
    cases s with
    | leaf atom samples =>
      obtain rfl : samples = none := hsamples.here
      exact fun ctx hctx => .inl (atom.takes_sampleValue here ctx hctx)
    | object fields samples =>
      obtain rfl : samples = none := hsamples.here
      exact admits_object (fields_of_stock (.node here below)) here.2
        (filledWith_fieldSamples fun field hfield => hpart _ (mem_parts_of_mem_fields hfield))
    | array item rule samples =>
      obtain rfl : samples = none := hsamples.here
      exact admits_array here.1 here.2 (hpart item (by simp [parts]))
    | nullable inner samples =>
      obtain rfl : samples = none := hsamples.here
      exact admits_nullable (require_of_stock (below inner (by simp [parts])).here) (.inl rfl)
    | optional inner => exact hpart inner (by simp [parts])
    | union candidates samples =>
      obtain rfl : samples = none := hsamples.here
      cases candidates with
      | nil => exact absurd rfl here
      | cons first candidates =>
        have hfirst := hpart first (by simp [parts])
        show (union (first :: candidates) none).Admits False setting first.sampleValue
        refine admits_union List.mem_cons_self hfirst (.inr fun ctx hctx => ?_)
        rcases hfirst ctx hctx with ⟨w, hw⟩ | ⟨hfalse, -⟩
        · exact ⟨.ok w, by rw [parseFirst, hw]⟩
        · exact hfalse.elim
    | dict key value samples =>
      obtain rfl : samples = none := hsamples.here
      obtain ⟨keySamples, rfl⟩ := here
      have hkey : (leaf (.string {}) keySamples).Every (·.samples = none) :=
        hsamples.of_mem (by simp [parts])
      obtain rfl : keySamples = none := hkey.here
      exact admits_dict (hpart value (by simp [parts]))
    | custom rule | single item | plain v => exact here.elim

/-! ## Random samples -/

/-- The unions whose candidates have no trouble with each other's samples: there are no floats among
them, or no text that writes an integer too large for one. -/
def Concordant : Schema → Prop
  | .union candidates samples => ∃ floats : Prop, (union candidates samples).Every (Calm floats)
  | _ => True

/-- A schema admits a value, and no node has trouble with it if the leaves of the schema are
calm. -/
def Suits (mayFault : Prop) (setting : Setting) (s : Schema) (v : Value) : Prop :=
  s.Admits mayFault setting v ∧ ∀ floats, s.Every (Calm floats) → v.Mild floats

theorem yields_randomFields {P : Schema → Value → Prop} {fields : List (Value × Schema)}
    (h : ∀ field ∈ fields, (field.2.randomSample now).Yields (P field.2)) :
    (randomFields now fields).Yields (FilledWith P fields) := by
  induction fields with
  | nil => exact Gen.yields_pure .nil
  | cons field fields ih =>
    obtain ⟨hfield, hfields⟩ := List.forall_mem_cons.mp h
    rw [randomFields]
    exact hfield.bind fun w hw => (ih hfields).bind fun entries hentries =>
      Gen.yields_pure (.cons ⟨rfl, hw⟩ hentries)

theorem yields_randomAt {P : Schema → Value → Prop} {candidates : List Schema} {n : Nat}
    (hn : n < candidates.length) (h : ∀ s ∈ candidates, (s.randomSample now).Yields (P s)) :
    (randomAt now candidates n).Yields fun v => ∃ s ∈ candidates, P s v := by
  induction candidates generalizing n with
  | nil => exact absurd hn (Nat.not_lt_zero n)
  | cons s candidates ih =>
    obtain ⟨hs, hrest⟩ := List.forall_mem_cons.mp h
    cases n with
    | zero => exact hs.imp fun v hv => ⟨s, List.mem_cons_self, hv⟩
    | succ n =>
      exact (ih (Nat.lt_of_succ_lt_succ hn) hrest).imp fun v ⟨t, ht, hv⟩ =>
        ⟨t, List.mem_cons_of_mem _ ht, hv⟩

section Suits

variable {inner : Schema}

theorem suits_object {fields : List (Value × Schema)} {entries : List (Value × Value)}
    (hfields : ∀ field ∈ fields, (∃ key, field.1 = .text key) ∧ field.2.require = .ok ())
    (hdistinct : Entries.Distinct fields)
    (h : FilledWith (Suits mayFault setting) fields entries) :
    (object fields samples).Suits mayFault setting (.dict entries) := by
  refine ⟨?_, fun floats hcalm => ?_⟩
  · exact admits_object hfields hdistinct (List.Forall₂.imp (fun _ _ h => ⟨h.1, h.2.1⟩) h)
  · refine Value.mild_dict (fun entry hentry => ?_) fun entry hentry => ?_ <;>
      obtain ⟨field, hfield, hkey, hsuits⟩ := exists_field_of_filledWith h hentry
    · exact hkey ▸ (hfields field hfield).1
    · exact hsuits.2 floats (hcalm.of_mem (mem_parts_of_mem_fields hfield))

theorem suits_array {rule : ArrayRule} (hmin : rule.minLength = none) (hmax : rule.maxLength = none)
    (h : inner.Suits mayFault setting v) :
    (array inner rule samples).Suits mayFault setting (.list [v]) := by
  refine ⟨admits_array hmin hmax h.1, fun floats hcalm => Value.mild_list ?_⟩
  simpa using h.2 floats (hcalm.of_mem (by simp [parts]))

theorem suits_nullable_null (hrequire : inner.require = .ok ()) :
    (nullable inner samples).Suits mayFault setting .null :=
  ⟨admits_nullable hrequire (.inl rfl), fun _ _ => Value.mild_null⟩

theorem suits_nullable (hrequire : inner.require = .ok ()) (h : inner.Suits mayFault setting v) :
    (nullable inner samples).Suits mayFault setting v :=
  ⟨admits_nullable hrequire (.inr h.1), fun floats hcalm =>
    h.2 floats (hcalm.of_mem (by simp [parts]))⟩

theorem suits_optional (h : inner.Suits mayFault setting v) :
    (optional inner).Suits mayFault setting v :=
  ⟨h.1, fun floats hcalm => h.2 floats (hcalm.of_mem (by simp [parts]))⟩

/-- What suits a candidate suits the union, unless another candidate has trouble with it. -/
theorem suits_union {candidates : List Schema} (hstock : ∀ s ∈ candidates, s.Every Stock)
    (hconcord : mayFault ∨ (union candidates samples).Concordant) (hs : s ∈ candidates)
    (h : s.Suits mayFault setting v) : (union candidates samples).Suits mayFault setting v := by
  refine ⟨admits_union hs h.1 (hconcord.imp_right fun hconcord ctx hctx => ?_),
    fun floats hcalm => h.2 floats (hcalm.of_mem hs)⟩
  obtain ⟨floats, hcalm⟩ := hconcord
  have hmild := h.2 floats (hcalm.of_mem hs)
  obtain ⟨first, hfirst, -⟩ := answered_parseFirst fun other hother =>
    have hother' := hstock other hother
    have hcalm' := hcalm.of_mem hother
    ⟨answersMild hother' hcalm' hmild hctx,
      exists_typeText_of_typed (every_typed_of_stock hother' hcalm')⟩
  exact ⟨first, hfirst⟩

theorem suits_dict {keySamples : Option SampleOptions} {k : String}
    (h : inner.Suits mayFault setting v) :
    (dict (.leaf (.string {}) keySamples) inner samples).Suits mayFault setting
      (.dict [(.text k, v)]) := by
  refine ⟨admits_dict h.1, fun floats hcalm => Value.mild_dict (by simp) ?_⟩
  simpa using h.2 floats (hcalm.of_mem (by simp [parts]))

end Suits

/-- Whatever is drawn for a sample of a schema without options suits the schema, with faults or
without. -/
theorem yields_randomSample (hs : s.Every Stock) (hsamples : s.Every (·.samples = none))
    (hnow : now.HasRoom) (hconcord : mayFault ∨ s.Every Concordant) :
    (s.randomSample now).Yields (s.Suits mayFault setting) := by
  induction hs with
  | @node s here below ih =>
    have hpart : ∀ part ∈ s.parts,
        (part.randomSample now).Yields (part.Suits mayFault setting) :=
      fun part hpart => ih part hpart (hsamples.of_mem hpart)
        (hconcord.imp_right fun hconcord => hconcord.of_mem hpart)
    cases s with
    | leaf atom samples =>
      obtain rfl : samples = none := hsamples.here
      exact (atom.yields_randomSample here hnow).imp fun v hv =>
        ⟨fun ctx hctx => .inl (hv.1 ctx hctx), fun floats hcalm => hv.2 floats hcalm.here⟩
    | object fields samples =>
      obtain rfl : samples = none := hsamples.here
      exact (yields_randomFields fun field hfield => hpart _ (mem_parts_of_mem_fields hfield)).map
        fun entries => suits_object (fields_of_stock (.node here below)) here.2
    | array item rule samples =>
      obtain rfl : samples = none := hsamples.here
      exact (hpart item (by simp [parts])).bind fun v hv =>
        Gen.yields_pure (suits_array here.1 here.2 hv)
    | nullable inner samples =>
      obtain rfl : samples = none := hsamples.here
      have hrequire := require_of_stock (below inner (by simp [parts])).here
      refine Gen.yields_coin.bind fun coin _ => ?_
      cases coin with
      | true => exact Gen.yields_pure (suits_nullable_null hrequire)
      | false => exact (hpart inner (by simp [parts])).imp fun v => suits_nullable hrequire
    | optional inner => exact (hpart inner (by simp [parts])).imp fun v => suits_optional
    | union candidates samples =>
      obtain rfl : samples = none := hsamples.here
      have hpos : 0 < candidates.length := List.length_pos_iff.mpr here
      have hnonempty : candidates.isEmpty = false := List.isEmpty_eq_false_iff.mpr here
      rw [randomSample, resolveRandom]
      simp only [hnonempty, Bool.false_eq_true, if_false]
      refine ((Gen.yields_below hpos).bind fun n hn => yields_randomAt hn hpart).imp ?_
      rintro v ⟨part, hmem, hv⟩
      exact suits_union below (hconcord.imp_right fun hconcord => hconcord.here) hmem hv
    | dict key value samples =>
      obtain rfl : samples = none := hsamples.here
      obtain ⟨keySamples, rfl⟩ := here
      have hkey : (leaf (.string {}) keySamples).Every (·.samples = none) :=
        hsamples.of_mem (by simp [parts])
      obtain rfl : keySamples = none := hkey.here
      refine Gen.Yields.bind (Gen.yields_hexText.map fun k _ => ⟨k, rfl⟩ :
        Gen.Yields _ fun key => ∃ k, key = .text k) ?_
      rintro _ ⟨k, rfl⟩
      exact (hpart value (by simp [parts])).bind fun w hw => Gen.yields_pure (suits_dict hw)
    | custom rule | single item | plain v => exact here.elim

/-! ## The samples of a schema -/

/-- A schema without options accepts its sample value.  Whatever is drawn and whenever, it has a
random sample and does not reject it, and it accepts that sample if the candidates of its unions
have no trouble with each other's samples. -/
theorem samples_accepted (hs : s.Every Stock) (hsamples : s.Every (·.samples = none))
    (setting : Setting) (hctx : ctx.Plain) :
    s.Accepts setting s.sampleValue ctx ∧
    ∀ now : Calendar.Moment, now.HasRoom → ∀ draws : Draws,
      ∃ v, ((s.randomSample now).run.run draws).1 = .ok v ∧
      (∀ r, s.parse setting v ctx ≠ .error (.rejected r)) ∧
      (s.Every Concordant → s.Accepts setting v ctx) := by
  have hvalue : ∀ {v}, s.Admits False setting v → s.Accepts setting v ctx := fun h =>
    (h ctx hctx).resolve_right And.left
  refine ⟨hvalue (admits_sampleValue hs hsamples), fun now hnow draws => ?_⟩
  have hdrawn : (s.randomSample now).Yields (s.Suits True setting) :=
    yields_randomSample hs hsamples hnow (.inl trivial)
  obtain ⟨v, hv, hadmits, -⟩ := hdrawn draws
  refine ⟨v, hv, (hadmits ctx hctx).ne_rejected, fun hconcord => ?_⟩
  -- the same draws give the same sample
  obtain ⟨w, hw, hadmits, -⟩ := yields_randomSample hs hsamples hnow (.inr hconcord) draws
  cases hv.symm.trans hw
  exact hvalue hadmits

/-- A stream of which every number is one half. -/
def halves : Draws :=
  ⟨fun _ => ⟨4503599627370496, by decide⟩, 0⟩

/-- A binary number or a fixed text. -/
def floatOrText (s : String) : Schema :=
  .union [.leaf (.float {}) none, .leaf (.literal (.text s)) none] none

/-- The form of a ticket: every kind of node, with a union of a number and a word. -/
def ticketForm : Schema :=
  .object
    [(.text "holder", .leaf (.string {}) none),
     (.text "price", floatOrText "free"),
     (.text "day", .optional (.nullable (.leaf (.date {}) none) none)),
     (.text "colours", .array (.leaf .color none) {} none),
     (.text "seats", .dict (.leaf (.string {}) none) (.leaf (.int {}) none) none),
     (.text "class", .leaf (.values [.text "first", .int 2] (by simp)) none)] none

theorem samples_accepted_ticketForm :
    ticketForm.Every Stock ∧ ticketForm.Every (·.samples = none) ∧ Context.root.Plain ∧
    ticketForm.Every Concordant ∧ Leaf.noon.HasRoom ∧
    ticketForm.Accepts "en" ticketForm.sampleValue .root ∧
    ∃ v, ((ticketForm.randomSample Leaf.noon).run.run halves).1 = .ok v ∧
      ticketForm.Accepts "en" v .root := by
  have hs : ticketForm.Every Stock := by
    have hfree : (Value.text "free").Small := Value.small_text (by decide)
    have hfirst : (Value.text "first").Small := Value.small_text (by decide)
    have hsecond : (Value.int 2).Small := Value.small_int (by decide)
    have htext : ∀ s, (Value.text s).kind ≠ .nan := fun s => by simp [Value.kind]
    have htwo : (Value.int 2).kind ≠ .nan := by decide
    simp [ticketForm, floatOrText, Stock, Leaf.Stock, Entries.Distinct, hfree, hfirst, hsecond,
      htext, htwo]
  have hsamples : ticketForm.Every (·.samples = none) := by
    simp [ticketForm, floatOrText, samples]
  have hconcord : ticketForm.Every Concordant := by
    have hfloat : (Leaf.float {}).Calm True := Leaf.calm_of_fixed_eq_nil rfl fun _ _ => trivial
    have hfree : (Leaf.literal (.text "free")).Calm True := Leaf.calm_text (by decide)
    have hprice : (floatOrText "free").Concordant :=
      ⟨True, by simp [Calm, hfloat, hfree]⟩
    have hunion : (floatOrText "free").Every Concordant :=
      every_union.mpr ⟨hprice, by simp [Concordant]⟩
    simp [ticketForm, Concordant, hunion]
  have hnoon : Leaf.noon.HasRoom := by decide
  have haccepted := samples_accepted hs hsamples "en" Context.plain_root
  obtain ⟨v, hv, -, haccepts⟩ := haccepted.2 Leaf.noon hnoon halves
  exact ⟨hs, hsamples, Context.plain_root, hconcord, hnoon, haccepted.1, v, hv, haccepts hconcord⟩

theorem randomSample_floatOrText (now : Calendar.Moment) (s : String) :
    (((floatOrText s).randomSample now).run.run halves).1 = .ok (.text s) := by
  have hdraw : ∀ f : Nat → Gen Value, ((Gen.below 2 >>= f).run.run halves).1 =
      ((f 1).run.run { halves with used := 1 }).1 := fun f => rfl
  rw [floatOrText, randomSample, resolveRandom, if_neg (by simp)]
  refine (hdraw _).trans ?_
  rw [randomAt, randomAt, randomSample]
  rfl

/-- A one and so many zeros. -/
def powerText (zeros : Nat) : String :=
  String.ofList ('1' :: List.replicate zeros '0')

theorem readNumber_powerText {zeros : Nat} (h : zeros < Numeric.maxDigits) :
    Numeric.readNumber (powerText zeros) = .ok (some (.int ((10 ^ zeros : Nat) : Int))) := by
  have hdigits : ∀ d ∈ '1' :: List.replicate zeros '0', Text.isDigit d = true := by
    intro d hd
    rcases List.mem_cons.mp hd with rfl | hd
    · decide
    · rw [List.eq_of_mem_replicate hd]
      decide
  have hcount : ('1' :: List.replicate zeros '0').length ≤ Numeric.maxDigits := by
    rw [List.length_cons, List.length_replicate]
    exact h
  have hvalue : Text.digitsValue ('1' :: List.replicate zeros '0') = 10 ^ zeros := by
    have happend := Text.digitsValue_append ['1'] (List.replicate zeros '0')
    have hone : Text.digitsValue ['1'] = 1 := by decide
    rwa [Text.digitsValue_replicate_zero, List.length_replicate, hone, Nat.one_mul,
      Nat.add_zero] at happend
  rw [Numeric.readNumber, powerText, String.toList_ofList,
    Numeric.readNumberChars_digits hdigits (List.cons_ne_nil _ _) hcount, hvalue]

/-- A power of ten beyond the largest binary number is read, but it has no place among floats. -/
theorem parse_float_powerText {zeros : Nat} (hlarge : 1024 ≤ 3 * zeros)
    (hlength : zeros < Numeric.maxDigits) :
    (Leaf.float {}).parse setting (.text (powerText zeros)) ctx =
      .error (.faulted .integerTooLarge) := by
  have hlog : 3 * zeros ≤ (10 ^ zeros).log2 := by
    rw [Nat.le_log2 (Nat.ne_of_gt (Nat.pow_pos (by decide))), Nat.pow_mul]
    exact Nat.pow_le_pow_left (by decide) zeros
  have hnone : Numeric.Binary64.ofInt? ((10 ^ zeros : Nat) : Int) = none :=
    Numeric.ofInt?_eq_none (Nat.le_trans hlarge hlog)
  have hparse : FloatRule.parse {} setting.locale (.text (powerText zeros)) ctx =
      .error (.faulted .integerTooLarge) := by
    rw [FloatRule.parse, Leaf.numberRule_parse_text (readNumber_powerText hlength),
      Outcome.ok_bind, Numeric.Number.withoutNoise, Numeric.Number.toBinary64?, hnone]
  rw [Leaf.parse, hparse]
  rfl

/-- Not every sample is accepted: a candidate faults on that of another. -/
theorem not_forall_samples_accepted :
    ¬ ∀ (s : Schema) (setting : Setting) (now : Calendar.Moment) (draws : Draws) (v : Value),
      s.Every Stock → s.Every (·.samples = none) → now.HasRoom →
        ((s.randomSample now).run.run draws).1 = .ok v → s.Accepts setting v .root := by
  intro h
  have hlength : (powerText 400).length ≤ 4000 := by
    rw [powerText, String.length_ofList, List.length_cons, List.length_replicate]
    decide
  have hs : (floatOrText (powerText 400)).Every Stock := by
    simp [floatOrText, Stock, Leaf.Stock, Value.kind, Value.small_text hlength]
  have hsamples : (floatOrText (powerText 400)).Every (·.samples = none) := by
    simp [floatOrText, samples]
  obtain ⟨w, hw⟩ := h _ "en" Leaf.noon halves _ hs hsamples (by decide)
    (randomSample_floatOrText Leaf.noon (powerText 400))
  have hfaults := @parse_float_powerText "en" Context.root.candidate 400 (by decide) (by decide)
  rw [floatOrText, parse, parseFirst, parse, hfaults] at hw
  cases hw

end Schema

end Intake
