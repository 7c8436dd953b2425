import Intake.Proofs.Leaf.Sampled
import Intake.Proofs.Schema.Build
import Intake.Proofs.Schema.Reliable
import Intake.Proofs.Schema.Samples

/-!
# Inferred schemas accept their samples

A schema is inferred from a sample by its shape: a kind of leaf for each kind of value, the array of
the first item, and a field for each entry, by the modifiers of its key.  It accepts every instance
of the sample.  A schema can be inferred unless a list of members holds an integer that is too long
to be written, for the type of an enumeration is the text of its members.

## Main definitions

* `Schema.Fits` — a schema that accepts the instances of a sample.
* `Schema.Infers`, `Schema.InfersField` — when a schema is inferred, and that it fits.

## Main statements

* `Schema.exists_modified` — what modifiers make of a schema.
* `Schema.infers_items`, `Schema.infers_dict` — lists and dictionaries of samples.
* `Schema.infer_accepts_instances` — when a schema is inferred, and what it accepts.
-/

namespace Intake

open Outcome (bind_eq_ok map_eq_ok)
open Numeric (Number Binary64)

namespace Schema

/-! ## Modifiers -/

section Modified

variable {s : Schema} {setting : Setting}

theorem require_of_typed (h : s.Typed) : s.require = .ok () := by
  cases s with
  | plain v => exact h.elim
  | _ => rfl

theorem nullableOf_eq_ok (hs : s.Every Typed) : nullableOf s [] = .ok (.nullable s none) := by
  obtain ⟨type, htype⟩ := exists_typeText_of_typed hs
  rw [nullableOf, htype]
  rfl

theorem arrayOf_eq_ok (hs : s.Every Typed) : arrayOf s {} [] = .ok (.array s {} none) := by
  obtain ⟨type, htype⟩ := exists_typeText_of_typed hs
  rw [arrayOf, htype, Outcome.ok_bind, require_of_typed hs.here]
  rfl

theorem modified_eq (ms : Modifiers) (s : Schema) : modified ms s =
    (fun inner => if ms.optional then .optional inner else inner) <$>
      if ms.nullable then nullableOf s [] else .ok s := by
  rw [modified]
  cases ms.nullable <;> rfl

/-- A field takes in an input: null if it may be null, or what its schema accepts everywhere. -/
def TakesIn (ms : Modifiers) (s : Schema) (setting : Setting) (w : Value) : Prop :=
  (ms.nullable = true ∧ w = .null) ∨ ∀ ctx, ctx.Plain → s.Accepts setting w ctx

/-- A schema that may be nullable accepts null where it is. -/
theorem exists_nullable (ms : Modifiers) (hs : s.Every Typed) :
    ∃ t, (if ms.nullable then nullableOf s [] else .ok s) = .ok t ∧ t.Every Typed ∧
      ∀ setting w ctx, ctx.Plain → TakesIn ms s setting w → t.Accepts setting w ctx := by
  cases hnullable : ms.nullable with
  | false =>
    refine ⟨s, rfl, hs, fun setting w ctx hctx h => ?_⟩
    rcases h with ⟨hms, -⟩ | h
    · exact absurd (hnullable.symm.trans hms) (by decide)
    · exact h ctx hctx
  | true =>
    refine ⟨_, nullableOf_eq_ok hs, every_nullable.mpr ⟨trivial, hs⟩,
      fun setting w ctx hctx h => accepts_nullable_iff.mpr ?_⟩
    by_cases hw : w = .null
    · exact .inl hw
    · -- Below a nullable node the context is another one, so `s` has to accept in every context.
      obtain ⟨ctx', hctx', hplain⟩ := hctx.nonNull
      have haccepts := h.resolve_left fun h => hw h.2
      exact .inr ⟨hw, require_of_typed hs.here, ctx', hctx', haccepts ctx' hplain⟩

/-- Modifiers make a schema accept null or become optional; else it accepts what it did. -/
theorem exists_modified (ms : Modifiers) (hs : s.Every Typed) :
    ∃ t, modified ms s = .ok t ∧ t.Every Typed ∧ (ms.optional = true → t.tag = .optional) ∧
      ∀ setting w ctx, ctx.Plain → TakesIn ms s setting w → t.Accepts setting w ctx := by
  obtain ⟨inner, hinner, htyped, haccepts⟩ := exists_nullable ms hs
  rw [modified_eq, hinner, Outcome.map_ok]
  cases hoptional : ms.optional with
  | false => exact ⟨inner, rfl, htyped, by simp, haccepts⟩
  | true =>
    have htyped := every_optional.mpr ⟨trivial, htyped⟩
    exact ⟨.optional inner, rfl, htyped, fun _ => rfl, haccepts⟩

end Modified

/-! ## Enumerations -/

section Enumerations

variable {v : Value} {members : List Value}

theorem enumerationOf_eq (hne : members ≠ []) : enumerationOf members = do
    let _ ← Leaf.alternativesText members
    return .leaf (.values members hne)
      (some { value := members.head?, random := .among members }) := by
  have hoptions : SampleOptions.ofFields [("sample_values", .value (.list members))] =
      .ok (some { value := members.head?, random := .among members }) := by
    obtain ⟨first, rest, rfl⟩ := List.exists_cons_of_ne_nil hne
    rfl
  rw [enumerationOf, ofMembers, dif_neg hne, ofLeaf, hoptions]
  rfl

/-- An enumeration has a type as far as its members can be written. -/
theorem exists_alternativesText_iff (h : Enumerates v members) :
    (∃ type, Leaf.alternativesText members = .ok type) ↔ ¬ (Value.list members).HoldsTooLong := by
  rw [← Value.exists_json_iff h.keys, Value.exists_json_list_iff, Leaf.alternativesText]
  cases members.mapM Value.json <;> simp

theorem exists_enumerationOf_iff (h : Enumerates v members) :
    (∃ s, enumerationOf members = .ok s) ↔ ¬ (Value.list members).HoldsTooLong := by
  rw [← exists_alternativesText_iff h, enumerationOf_eq h.nonempty]
  cases Leaf.alternativesText members <;> simp

/-- An enumeration accepts its members. -/
theorem fits_enumeration {s : Schema} (h : Enumerates v members)
    (hs : enumerationOf members = .ok s) : s.Every Typed ∧
      ∀ member ∈ members, ∀ setting ctx, s.Accepts setting member ctx := by
  rw [enumerationOf_eq h.nonempty] at hs
  obtain ⟨type, htype, hs⟩ := bind_eq_ok.mp hs
  cases hs
  refine ⟨every_leaf.mpr ⟨type, htype, Leaf.alternativesText_ne_empty h.nonempty htype⟩,
    fun member hmember setting ctx => ?_⟩
  exact Leaf.exists_parse_values hmember (h.numbers member hmember)

end Enumerations

/-! ## Inferred schemas -/

/-- A schema has a type and accepts the instances of a sample, wherever they stand. -/
structure Fits (sample : Value) (s : Schema) : Prop where
  typed : s.Every Typed
  accepts : ∀ w, IsInstance sample w → ∀ setting ctx, ctx.Plain → s.Accepts setting w ctx

/-- No list of members in a sample holds an integer that is too long. -/
def EnumsWritten (sample : Value) : Prop :=
  ∀ members, HoldsEnum members sample → ¬ (Value.list members).HoldsTooLong

/-- A schema is inferred as far as its enumerations can be written, and it fits. -/
structure Infers (sample : Value) : Prop where
  inferred : (∃ s, infer sample = .ok s) ↔ EnumsWritten sample
  fits : ∀ s, infer sample = .ok s → Fits sample s

/-! ### Leaves -/

section Leaves

variable {sample : Value}

/-- A leaf with a type fits a sample that stands for itself alone, if it accepts it. -/
theorem infers_leaf {atom : Leaf} {samples : Option SampleOptions} {type : String}
    (hinfer : infer sample = .ok (.leaf atom samples))
    (hself : ∀ w, IsInstance sample w → w = sample)
    (hnone : ∀ members, ¬ HoldsEnum members sample)
    (htype : atom.signature = .ok type) (hne : type ≠ "")
    (haccepts : ∀ setting ctx, ctx.Plain → ∃ w, atom.parse setting sample ctx = .ok w) :
    Infers sample where
  inferred := iff_of_true ⟨_, hinfer⟩ fun members hholds => absurd hholds (hnone members)
  fits := fun s hs => by
    cases hinfer.symm.trans hs
    refine ⟨every_leaf.mpr ⟨type, htype, hne⟩, fun w hw setting ctx hctx => ?_⟩
    rw [hself w hw]
    exact haccepts setting ctx hctx

/-- Whole binary numbers are inferred as integers, others as floats. -/
theorem infers_float {x : Binary64} (hx : x.Below (10 ^ 15)) :
    Infers (.number (.float x)) := by
  have hself : ∀ w, IsInstance (.number (.float x)) w → w = .number (.float x) := by
    rintro _ ⟨⟩
    rfl
  have hnone : ∀ members, ¬ HoldsEnum members (.number (.float x)) := by
    rintro _ ⟨⟩
  cases hint : x.toInt? with
  | some n =>
    have hinfer : infer (.number (.float x)) = .ok (sampled (.int {}) (.int n)) := by
      rw [infer, inferNumber, hint]
    exact infers_leaf hinfer hself hnone rfl (by decide)
      fun _ _ _ => ⟨_, Leaf.parse_int_whole hx hint⟩
  | none =>
    have hinfer : infer (.number (.float x)) =
        .ok (sampled (.float {}) (.number (.float x))) := by
      rw [infer, inferNumber, hint, hx.isFinite]
      rfl
    exact infers_leaf hinfer hself hnone rfl (by decide)
      fun _ _ _ => ⟨_, Leaf.parse_float hx.isNaN⟩

end Leaves

/-! ### Lists -/

section Lists

variable {v : Value} {items : List Value}

/-- The array of a schema without bounds accepts what has acceptable items. -/
theorem accepts_arrayOf_iff {s : Schema} {setting : Setting} {ctx : Context} {P : Value → Prop}
    (hctx : ctx.Plain) (hv : v.items? = some items)
    (h : ∀ w ∈ items, ∀ ctx, ctx.Plain → (s.Accepts setting w ctx ↔ P w)) :
    (array s {} none).Accepts setting v ctx ↔ ∀ w ∈ items, P w := by
  obtain ⟨inner, hinner, hplain⟩ := hctx.item
  have hitems : ArrayRule.items {} v ctx = .ok items := by
    rw [ArrayRule.items, hv]
    rfl
  rw [accepts_array_iff]
  constructor
  · rintro ⟨items', inner', hitems', hinner', haccepts⟩ w hw
    cases hitems.symm.trans hitems'
    cases hinner.symm.trans hinner'
    exact (h w hw inner hplain).mp (haccepts w hw)
  · intro hP
    exact ⟨items, inner, hitems, hinner, fun w hw => (h w hw inner hplain).mpr (hP w hw)⟩

/-- What is inferred from the first of some items fits all of them, if the same is inferred from
all. -/
theorem accepts_of_uniform {first : Value} {s : Schema} (huniform : Uniform items)
    (hfirst : first ∈ items) (hs : infer first = .ok s) (hall : ∀ u ∈ items, Infers u) :
    ∀ u ∈ items, ∀ w, IsInstance u w → ∀ setting ctx, ctx.Plain → s.Accepts setting w ctx := by
  intro u hu w hw setting ctx hctx
  obtain ⟨t, s', ht, hs', hresembles⟩ := huniform u hu first hfirst
  cases hs.symm.trans hs'
  exact hresembles.accepts (((hall u hu).fits t ht).accepts w hw setting ctx hctx)

/-- A list or tuple of samples from which the same is inferred. -/
theorem infers_items (hne : items ≠ []) (huniform : Uniform items)
    (hall : ∀ u ∈ items, Infers u)
    (hinfer : infer v = do arrayOf (← inferFirst items) {} [])
    (hwritten : EnumsWritten v ↔ ∀ u ∈ items, EnumsWritten u)
    (hinstance : ∀ w, IsInstance v w → ∃ out, w.items? = some out ∧ AreInstances items out) :
    Infers v := by
  obtain ⟨first, rest, rfl⟩ := List.exists_cons_of_ne_nil hne
  have hfirst : first ∈ first :: rest := List.mem_cons_self
  obtain ⟨s, -, hs, -, -⟩ := huniform first hfirst first hfirst
  have hfits := (hall first hfirst).fits s hs
  -- The array is made from the first item; the schemas of the others resemble that of the first.
  have harray : infer v = .ok (.array s {} none) := by
    rw [hinfer, inferFirst, hs, Outcome.ok_bind, arrayOf_eq_ok hfits.typed]
  refine ⟨iff_of_true ⟨_, harray⟩ (hwritten.mpr fun u hu => ?_), fun t ht => ?_⟩
  · obtain ⟨t, -, ht, -, -⟩ := huniform u hu u hu
    exact (hall u hu).inferred.mp ⟨t, ht⟩
  · cases harray.symm.trans ht
    refine ⟨every_array.mpr ⟨trivial, hfits.typed⟩, fun w hw setting ctx hctx => ?_⟩
    obtain ⟨out, hout, hinstances⟩ := hinstance w hw
    refine (accepts_arrayOf_iff hctx hout fun e he ctx hctx => iff_true_intro ?_).mpr
      fun _ _ => trivial
    obtain ⟨u, hu, he⟩ := exists_of_mem_areInstances hinstances he
    exact accepts_of_uniform huniform hfirst hs hall u hu e he setting ctx hctx

theorem enumsWritten_list_iff :
    EnumsWritten (.list items) ↔ ∀ v ∈ items, EnumsWritten v := by
  refine ⟨fun h v hv members hholds => h members (.item hv hholds), fun h members hholds => ?_⟩
  cases hholds with
  | item hv hholds => exact h _ hv members hholds

theorem enumsWritten_tuple_iff :
    EnumsWritten (.tuple items) ↔ ∀ v ∈ items, EnumsWritten v := by
  refine ⟨fun h v hv members hholds => h members (.member hv hholds), fun h members hholds => ?_⟩
  cases hholds with
  | member hv hholds => exact h _ hv members hholds

end Lists

/-! ### Fields -/

section Fields

variable {entry : Value × Value} {name : String} {ms : Modifiers} {v : Value}

/-- A schema has a type and accepts what fills a field of a sample, wherever it stands. -/
structure FitsField (ms : Modifiers) (sample : Value) (s : Schema) : Prop where
  typed : s.Every Typed
  tag : ms.optional = true → s.tag = .optional
  accepts : ∀ w, Fills ms sample w → ∀ setting ctx, ctx.Plain → s.Accepts setting w ctx

/-- No list of members in a field holds an integer that is too long. -/
def FieldWritten (ms : Modifiers) (v : Value) : Prop :=
  ∀ members, (ms.enums = true ∧ v.items? = some members) ∨
    (ms.enums = false ∧ HoldsEnum members v) → ¬ (Value.list members).HoldsTooLong

/-- The schema of a field as it is before nullable and optional. -/
def unmodified (ms : Modifiers) (v : Value) : Except Fault Schema :=
  if ms.enums then enumerationOf (v.items?.getD []) else infer v

theorem unmodified_members {members : List Value} (hms : ms.enums = true)
    (hitems : v.items? = some members) : unmodified ms v = enumerationOf members := by
  rw [unmodified, if_pos hms, hitems, Option.getD_some]

theorem unmodified_value (hms : ms.enums = false) : unmodified ms v = infer v := by
  rw [unmodified, hms]
  rfl

theorem inferField_eq (h : Declares entry name ms) : inferField entry.1 entry.2 =
    (fun s => (.text name, s)) <$> (unmodified ms entry.2 >>= modified ms) := by
  obtain ⟨key, hkey, hstrips⟩ := h
  rw [inferField, hkey, fieldOf, peel_eq_iff.mpr hstrips, unmodified]
  cases hms : ms.enums <;> simp [hms, map_eq_pure_bind]

/-- A field goes by the name in its key. -/
theorem key_of_inferField {field : Value × Schema} (hdeclares : Declares entry name ms)
    (h : inferField entry.1 entry.2 = .ok field) : field.1 = .text name := by
  rw [inferField_eq hdeclares] at h
  obtain ⟨s, -, rfl⟩ := map_eq_ok.mp h
  rfl

/-- The schema of a field is inferred as far as its enumerations can be written, and the field takes
in what fills it. -/
structure InfersField (ms : Modifiers) (v : Value) : Prop where
  inferred : (∃ s, unmodified ms v = .ok s) ↔ FieldWritten ms v
  typed : ∀ s, unmodified ms v = .ok s → s.Every Typed
  accepts : ∀ s, unmodified ms v = .ok s → ∀ w, Fills ms v w → ∀ setting, TakesIn ms s setting w

theorem infersField_members {members : List Value} (hms : ms.enums = true)
    (h : Enumerates v members) : InfersField ms v := by
  have hbare := unmodified_members hms h.items
  have hitems : ∀ {members'}, v.items? = some members' → members' = members := fun hitems =>
    Option.some.inj (hitems.symm.trans h.items)
  have hwritten : FieldWritten ms v ↔ ¬ (Value.list members).HoldsTooLong := by
    refine ⟨fun hwritten => hwritten members (.inl ⟨hms, h.items⟩), fun hwritten members' h' => ?_⟩
    rcases h' with ⟨-, hmembers'⟩ | ⟨hnone, -⟩
    · rwa [hitems hmembers']
    · exact absurd (hms.symm.trans hnone) (by decide)
  refine ⟨?_, fun s hs => ?_, fun s hs w hw setting => ?_⟩
  · rw [hbare, hwritten, exists_enumerationOf_iff h]
  · exact (fits_enumeration h (hbare ▸ hs)).1
  · cases hw with
    | null nullable => exact .inl ⟨nullable, rfl⟩
    | member _ items mem =>
      rw [hitems items] at mem
      exact .inr fun ctx _ => (fits_enumeration h (hbare ▸ hs)).2 w mem setting ctx
    | value none _ => exact absurd (hms.symm.trans none) (by decide)

theorem infersField_value (hms : ms.enums = false) (h : Infers v) : InfersField ms v := by
  have hbare : unmodified ms v = infer v := unmodified_value hms
  have hwritten : FieldWritten ms v ↔ EnumsWritten v := by
    refine ⟨fun hwritten members hholds => hwritten members (.inr ⟨hms, hholds⟩),
      fun hwritten members hmembers => ?_⟩
    rcases hmembers with ⟨henums, -⟩ | ⟨-, hholds⟩
    · exact absurd (hms.symm.trans henums) (by decide)
    · exact hwritten members hholds
  refine ⟨?_, fun s hs => ?_, fun s hs w hw setting => ?_⟩
  · rw [hbare, hwritten, h.inferred]
  · exact (h.fits s (hbare ▸ hs)).typed
  · cases hw with
    | null nullable => exact .inl ⟨nullable, rfl⟩
    | member enums _ _ => exact absurd (hms.symm.trans enums) (by decide)
    | value _ holds => exact .inr ((h.fits s (hbare ▸ hs)).accepts w holds setting)

theorem infersField (henums : ms.enums = true → ∃ members, Enumerates v members)
    (hvalue : ms.enums = false → Infers v) : InfersField ms v := by
  cases hms : ms.enums with
  | true =>
    obtain ⟨members, hmembers⟩ := henums hms
    exact infersField_members hms hmembers
  | false => exact infersField_value hms (hvalue hms)

/-- Modifiers do not keep a field from being inferred. -/
theorem InfersField.exists_inferField_iff (h : InfersField ms entry.2)
    (hdeclares : Declares entry name ms) :
    (∃ field, inferField entry.1 entry.2 = .ok field) ↔ FieldWritten ms entry.2 := by
  rw [inferField_eq hdeclares, ← h.inferred]
  constructor
  · rintro ⟨field, hfield⟩
    obtain ⟨t, ht, -⟩ := map_eq_ok.mp hfield
    obtain ⟨s, hs, -⟩ := bind_eq_ok.mp ht
    exact ⟨s, hs⟩
  · rintro ⟨s, hs⟩
    obtain ⟨t, ht, -⟩ := exists_modified ms (h.typed s hs)
    exact ⟨_, map_eq_ok.mpr ⟨t, bind_eq_ok.mpr ⟨s, hs, ht⟩, rfl⟩⟩

/-- A field that is inferred fits. -/
theorem InfersField.fitsField {field : Value × Schema} (h : InfersField ms entry.2)
    (hdeclares : Declares entry name ms) (hfield : inferField entry.1 entry.2 = .ok field) :
    FitsField ms entry.2 field.2 := by
  rw [inferField_eq hdeclares] at hfield
  obtain ⟨t, ht, rfl⟩ := map_eq_ok.mp hfield
  obtain ⟨s, hs, ht⟩ := bind_eq_ok.mp ht
  obtain ⟨t', ht', htyped, htag, haccepts⟩ := exists_modified ms (h.typed s hs)
  cases ht.symm.trans ht'
  exact ⟨htyped, htag, fun w hw setting ctx hctx =>
    haccepts setting w ctx hctx (h.accepts s hs w hw setting)⟩

theorem inferFields_eq_mapM (entries : List (Value × Value)) :
    inferFields entries = entries.mapM fun entry => inferField entry.1 entry.2 := by
  induction entries with
  | nil => rfl
  | cons entry entries ih =>
    rw [inferFields, ih, List.mapM_cons]
    rfl

end Fields

/-! ### Dictionaries -/

section Dictionaries

variable {entries : List (Value × Value)} {fields : List (Value × Schema)}

theorem enumsWritten_dict_iff : EnumsWritten (.dict entries) ↔
    ∀ entry ∈ entries, ∀ name ms, Declares entry name ms → FieldWritten ms entry.2 := by
  constructor
  · rintro h entry hentry name ms hdeclares members (⟨henums, hitems⟩ | ⟨henums, hholds⟩)
    · exact h members (.enum hentry hdeclares henums hitems)
    · exact h members (.value hentry hdeclares henums hholds)
  · intro h members hholds
    cases hholds with
    | enum mem declares enums items => exact h _ mem _ _ declares members (.inl ⟨enums, items⟩)
    | value mem declares enums holds => exact h _ mem _ _ declares members (.inr ⟨enums, holds⟩)

/-- Where names differ, so do the keys of the fields. -/
theorem distinct_of_inferFields (hkeys : ∀ entry ∈ entries, ∃ key, entry.1 = .text key)
    (hnames : NamesDiffer entries)
    (h : inferFields entries = .ok fields) : Entries.Distinct fields := by
  rw [inferFields_eq_mapM] at h
  induction entries generalizing fields with
  | nil =>
    cases h
    exact Entries.distinct_nil
  | cons entry entries ih =>
    obtain ⟨hkey, hkeys⟩ := List.forall_mem_cons.mp hkeys
    obtain ⟨hfirst, hnames⟩ := List.pairwise_cons.mp hnames
    rw [List.mapM_cons] at h
    obtain ⟨field, hfield, h⟩ := bind_eq_ok.mp h
    obtain ⟨rest, hrest, h⟩ := bind_eq_ok.mp h
    cases h
    refine Entries.distinct_cons.mpr ⟨fun field' hfield' => ?_, ih hkeys hnames hrest⟩
    obtain ⟨entry', hentry', hinfer'⟩ := Outcome.exists_of_mem_mapM hrest hfield'
    obtain ⟨name, ms, hdeclares⟩ := exists_declares hkey
    obtain ⟨name', ms', hdeclares'⟩ := exists_declares (hkeys entry' hentry')
    rw [key_of_inferField hdeclares hfield, key_of_inferField hdeclares' hinfer',
      Value.sameKey_text]
    exact decide_eq_false (hfirst entry' hentry' _ _ _ _ hdeclares hdeclares')

/-- An object accepts what fills its fields, and may leave out the optional ones. -/
theorem accepts_filled {setting : Setting} {ctx : Context} {samples : Option SampleOptions}
    {out : List (Value × Value)} (hctx : ctx.Plain)
    (h : ∀ field ∈ fields, ∃ name ms v, field.1 = .text name ∧ FitsField ms v field.2 ∧
      (Entries.get? (.text name) out = none ∧ ms.optional = true ∨
        ∃ w, Entries.get? (.text name) out = some w ∧ Fills ms v w)) :
    (object fields samples).Accepts setting (.dict out) ctx := by
  refine accepts_object_iff.mpr ⟨out, rfl, fun field hfield hkept => ?_⟩
  obtain ⟨name, ms, v, hkey, hfits, hfilled⟩ := h field hfield
  rcases hfilled with ⟨habsent, hoptional⟩ | ⟨w, hgiven, hfills⟩
  · rw [leavesOut, hkey, habsent, hfits.tag hoptional] at hkept
    cases hkept
  · obtain ⟨inner, hinner, hplain⟩ := hctx.child name
    refine exists_fieldYields_iff.mpr (.inr ⟨w, inner, hkey ▸ hgiven, ?_, hkey ▸ hinner, ?_⟩)
    · exact require_of_typed hfits.typed.here
    · exact hfits.accepts w hfills setting inner hplain

theorem infer_dict_eq_ok {s : Schema} : infer (.dict entries) = .ok s ↔
    ∃ fields, inferFields entries = .ok fields ∧
      object (Entries.ofList fields) (some { value := some (.dict entries) }) = s := by
  rw [infer, bind_eq_ok]
  simp only [Outcome.pure_eq_ok, Except.ok.injEq]

/-- An object is inferred if all of its fields are. -/
theorem exists_infer_dict_iff : (∃ s, infer (.dict entries) = .ok s) ↔
    ∀ entry ∈ entries, ∃ field, inferField entry.1 entry.2 = .ok field := by
  rw [← Outcome.exists_mapM_eq_ok_iff, ← inferFields_eq_mapM]
  simp only [infer_dict_eq_ok]
  exact ⟨fun ⟨_, fields, h, _⟩ => ⟨fields, h⟩, fun ⟨fields, h⟩ => ⟨_, fields, h, rfl⟩⟩

/-- An object of fields that fit. -/
theorem fits_dict {samples : Option SampleOptions}
    (hkeys : ∀ entry ∈ entries, ∃ key, entry.1 = .text key) (hnames : NamesDiffer entries)
    (hentries : ∀ entry ∈ entries, ∀ name ms, Declares entry name ms →
      ∀ field, inferField entry.1 entry.2 = .ok field → FitsField ms entry.2 field.2)
    (h : inferFields entries = .ok fields) : Fits (.dict entries) (object fields samples) := by
  have hfields : ∀ field ∈ fields, ∃ entry ∈ entries, ∃ name ms, Declares entry name ms ∧
      field.1 = .text name ∧ FitsField ms entry.2 field.2 := by
    intro field hfield
    rw [inferFields_eq_mapM] at h
    obtain ⟨entry, hentry, hinfer⟩ := Outcome.exists_of_mem_mapM h hfield
    obtain ⟨name, ms, hdeclares⟩ := exists_declares (hkeys entry hentry)
    exact ⟨entry, hentry, name, ms, hdeclares, key_of_inferField hdeclares hinfer,
      hentries entry hentry name ms hdeclares field hinfer⟩
  constructor
  · refine every_object.mpr ⟨fun field hfield => ?_, fun field hfield => ?_⟩
    · obtain ⟨entry, hentry, name, ms, hdeclares, hkey, hfits⟩ := hfields field hfield
      exact ⟨name, hkey⟩
    · obtain ⟨entry, hentry, name, ms, hdeclares, hkey, hfits⟩ := hfields field hfield
      exact hfits.typed
  · intro w hw setting ctx hctx
    cases hw with
    | dict filled =>
      refine accepts_filled hctx fun field hfield => ?_
      obtain ⟨entry, hentry, name, ms, hdeclares, hkey, hfits⟩ := hfields field hfield
      exact ⟨name, ms, entry.2, hkey, hfits, get?_of_areFilled hnames filled hentry hdeclares⟩

/-- A dictionary of fields that are inferred, whose names differ. -/
theorem infers_dict (hkeys : ∀ entry ∈ entries, ∃ key, entry.1 = .text key)
    (hnames : NamesDiffer entries)
    (hentries : ∀ entry ∈ entries, ∀ name ms, Declares entry name ms → InfersField ms entry.2) :
    Infers (.dict entries) := by
  constructor
  · rw [exists_infer_dict_iff, enumsWritten_dict_iff]
    refine forall₂_congr fun entry hentry => ?_
    obtain ⟨name, ms, hdeclares⟩ := exists_declares (hkeys entry hentry)
    rw [(hentries entry hentry name ms hdeclares).exists_inferField_iff hdeclares]
    -- A key declares one field only, so the field that is found here stands for all.
    refine ⟨fun h name' ms' hdeclares' => ?_, fun h => h name ms hdeclares⟩
    obtain ⟨rfl, rfl⟩ := hdeclares.unique hdeclares'
    exact h
  · intro s hs
    obtain ⟨fields, hfields, rfl⟩ := infer_dict_eq_ok.mp hs
    rw [Entries.ofList_of_distinct (distinct_of_inferFields hkeys hnames hfields)]
    exact fits_dict hkeys hnames (fun entry hentry name ms hdeclares field hfield =>
      (hentries entry hentry name ms hdeclares).fitsField hdeclares hfield) hfields

end Dictionaries

/-! ### All samples -/

/-- A schema is inferred from every sample whose enumerations can be written, and it fits. -/
theorem infers_of_isSample {sample : Value} (h : IsSample sample) : Infers sample := by
  induction h with
  | bool b =>
    exact infers_leaf (by rw [infer]) (by rintro _ ⟨⟩; rfl) (by rintro _ ⟨⟩) rfl (by decide)
      fun _ _ _ => ⟨_, Leaf.parse_boolean _⟩
  | text s =>
    exact infers_leaf (by rw [infer]; rfl) (by rintro _ ⟨⟩; rfl) (by rintro _ ⟨⟩) rfl (by decide)
      fun _ _ _ => ⟨_, Leaf.parse_string s⟩
  | int n =>
    exact infers_leaf (by rw [infer]; rfl) (by rintro _ ⟨⟩; rfl) (by rintro _ ⟨⟩) rfl (by decide)
      fun _ _ _ => ⟨_, Leaf.parse_int n⟩
  | moment m =>
    exact infers_leaf (by rw [infer]; rfl) (by rintro _ ⟨⟩; rfl) (by rintro _ ⟨⟩) rfl (by decide)
      fun _ _ hctx => ⟨_, Leaf.parse_date hctx rfl⟩
  | day d =>
    exact infers_leaf (by rw [infer]; rfl) (by rintro _ ⟨⟩; rfl) (by rintro _ ⟨⟩) rfl (by decide)
      fun _ _ hctx => ⟨_, Leaf.parse_date hctx rfl⟩
  | float below => exact infers_float below
  | list nonempty uniform all ih =>
    refine infers_items nonempty uniform ih (by rw [infer]) enumsWritten_list_iff fun w hw => ?_
    cases hw with
    | list all => exact ⟨_, rfl, all⟩
  | tuple nonempty uniform all ih =>
    refine infers_items nonempty uniform ih (by rw [infer]) enumsWritten_tuple_iff fun w hw => ?_
    cases hw with
    | tuple all => exact ⟨_, rfl, all⟩
  | dict keys names enums values ih =>
    exact infers_dict keys names fun entry hentry name ms hdeclares =>
      infersField (enums entry hentry name ms hdeclares) (ih entry hentry name ms hdeclares)

/-- A schema is inferred from a sample if its enumerations can be written, and it accepts every
instance of the sample. -/
theorem infer_accepts_instances {sample : Value} (h : IsSample sample) :
    ((∃ s, infer sample = .ok s) ↔ EnumsWritten sample) ∧
      ∀ s, infer sample = .ok s → ∀ v, IsInstance sample v → ∀ setting ctx, ctx.Plain →
        ∃ w, s.parse setting v ctx = .ok w := by
  obtain ⟨hinferred, hfits⟩ := infers_of_isSample h
  exact ⟨hinferred, fun s hs => (hfits s hs).accepts⟩

/-- The owner of a ticket. -/
def ticketOwner : Value :=
  .dict [(.text "name", .text "Ada"), (.text "mail?", .text "ada@example.com")]

/-- A ticket that is open or done, and that has an owner. -/
def ticket : Value :=
  .dict [(.text "status$enum", .list [.text "open", .text "done"]),
    (.text "closed$null?", .text "today"), (.text "sizes", .tuple [.int 3, .int 4]),
    (.text "owner", ticketOwner)]

/-- A ticket whose owner has no mail. -/
def openTicket : Value :=
  .dict [(.text "status", .text "open"), (.text "closed", .null),
    (.text "sizes", .tuple [.int 3, .int 4]), (.text "owner", .dict [(.text "name", .text "Ada")])]

theorem uniform_ints (ns : List Int) : Uniform (ns.map Value.int) := by
  intro v hv w hw
  obtain ⟨m, -, rfl⟩ := List.mem_map.mp hv
  obtain ⟨n, -, rfl⟩ := List.mem_map.mp hw
  have hinfer : ∀ k, infer (Value.int k) = .ok (sampled (.int {}) (.int k)) := by
    intro k
    rw [Value.int, infer]
    rfl
  exact ⟨_, _, hinfer m, hinfer n, .leaf _ _ _⟩

theorem isSample_ticket : IsSample ticket := by
  have howner : IsSample ticketOwner := isSample_dict
    [("name", {}), ("mail", { optional := true })]
    (.cons (hasSample_value rfl rfl (.text _)) (.cons (hasSample_value rfl rfl (.text _)) .nil))
    (by decide)
  have hstatus : Enumerates (.list [.text "open", .text "done"]) [.text "open", .text "done"] :=
    @enumerates_texts ["open", "done"] (by simp)
  have hsizes : IsSample (.tuple [.int 3, .int 4]) := by
    refine .tuple (by simp) (uniform_ints [3, 4]) fun v hv => ?_
    rcases List.mem_pair.mp hv with rfl | rfl <;> exact .int _
  exact isSample_dict
    [("status", { enums := true }), ("closed", { nullable := true, optional := true }),
      ("sizes", {}), ("owner", {})]
    (.cons (hasSample_members rfl rfl hstatus) (.cons (hasSample_value rfl rfl (.text _))
      (.cons (hasSample_value rfl rfl hsizes) (.cons (hasSample_value rfl rfl howner) .nil))))
    (by decide)

theorem infer_accepts_instances_ticket : IsSample ticket ∧ EnumsWritten ticket ∧
    IsInstance ticket openTicket ∧ ∃ s, infer ticket = .ok s ∧
      ∃ w, s.parse "en" openTicket .root = .ok w := by
  obtain ⟨hinferred, haccepts⟩ := infer_accepts_instances isSample_ticket
  have hmail : Declares (.text "mail?", .text "ada@example.com") "mail" { optional := true } :=
    declares_iff.mpr rfl
  have howner : IsInstance ticketOwner (.dict [(.text "name", .text "Ada")]) :=
    .dict (.filled (declares_iff.mpr rfl) (.value rfl (.text _)) (.leftOut hmail rfl .nil))
  have hsizes : IsInstance (.tuple [.int 3, .int 4]) (.tuple [.int 3, .int 4]) :=
    .tuple (.cons (.number _) (.cons (.number _) .nil))
  have hinstance : IsInstance ticket openTicket :=
    .dict (.filled (declares_iff.mpr rfl) (.member rfl rfl (by simp))
      (.filled (declares_iff.mpr rfl) (.null rfl)
      (.filled (declares_iff.mpr rfl) (.value rfl hsizes)
      (.filled (declares_iff.mpr rfl) (.value rfl howner) .nil))))
  obtain ⟨s, hs⟩ : ∃ s, infer ticket = .ok s := ⟨_, rfl⟩
  exact ⟨isSample_ticket, hinferred.mp ⟨s, hs⟩, hinstance, s, hs,
    haccepts s hs openTicket hinstance "en" .root Context.plain_root⟩

/-- An enumeration with a member that is too long to be written. -/
def longEnum : Value :=
  .dict [(.text "n$enum", .list [.int (10 ^ Numeric.maxDigits), .int 1])]

/-- Not every sample has a schema. -/
theorem exists_sample_not_inferred :
    ¬ ∀ sample, IsSample sample → ∃ s, infer sample = .ok s := by
  intro h
  have hdeclares : Declares (.text "n$enum", .list [.int (10 ^ Numeric.maxDigits), .int 1]) "n"
      { enums := true } := declares_iff.mpr rfl
  have hsample : IsSample longEnum := by
    refine isSample_dict [("n", { enums := true })]
      (.cons (hasSample_members rfl rfl ⟨rfl, by simp, ?_, ?_⟩) .nil)
      (by decide)
    · simp [Value.int, Value.kind, Number.isNaN]
    · intro entries hholds
      cases hholds with
      | item hv hholds => rcases List.mem_pair.mp hv with rfl | rfl <;> cases hholds
  have hwritten := (infers_of_isSample hsample).inferred.mp (h longEnum hsample)
  exact hwritten _ (.enum List.mem_cons_self hdeclares rfl rfl)
    ⟨_, Numeric.tooLong_tenPow, .item List.mem_cons_self .self⟩

end Schema

end Intake
