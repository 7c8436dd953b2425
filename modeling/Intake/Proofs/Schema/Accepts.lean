import Intake.Proofs.Schema.Projection

/-!
# Inputs that are accepted

An input is accepted where it has a value.  That is told by the parts of a schema alone: each item
of an array by itself, and each field of an object by itself, in whatever order they are declared.
What a user says about samples has no say in it.

## Main definitions

* `Schema.Accepts` — an input has a value.
* `Schema.Resembles` — schemas that differ in their samples and in the order of their fields only.

## Main statements

* `Schema.accepts_array_iff`, `Schema.accepts_nullable_iff`, `Schema.accepts_object_iff` — what it
  takes for a node to accept.
* `Schema.Resembles.accepts` — schemas that resemble each other accept the same inputs.
-/

namespace Intake

open Outcome (bind_eq_ok map_eq_ok ofFault_eq_ok)

namespace Schema

variable {setting : Setting} {v : Value} {ctx : Context} {samples : Option SampleOptions}

/-- An input has a value by a schema. -/
def Accepts (setting : Setting) (s : Schema) (v : Value) (ctx : Context) : Prop :=
  ∃ w, s.parse setting v ctx = .ok w

/-! ## Nodes -/

theorem accepts_array_iff {item : Schema} {rule : ArrayRule} :
    (array item rule samples).Accepts setting v ctx ↔
      ∃ items inner, rule.items v ctx = .ok items ∧ ctx.item = .ok inner ∧
        ∀ e ∈ items, item.Accepts setting e inner := by
  simp only [Accepts, parse_array_eq_ok, ← Outcome.exists_mapM_eq_ok_iff]
  constructor
  · rintro ⟨w, items, inner, out, hitems, hinner, hout, rfl⟩
    exact ⟨items, inner, hitems, hinner, out, hout⟩
  · rintro ⟨items, inner, hitems, hinner, out, hout⟩
    exact ⟨_, items, inner, out, hitems, hinner, hout, rfl⟩

theorem accepts_nullable_iff {inner : Schema} :
    (nullable inner samples).Accepts setting v ctx ↔
      v = .null ∨ v ≠ .null ∧ inner.require = .ok () ∧
        ∃ ctx', ctx.nonNull = .ok ctx' ∧ inner.Accepts setting v ctx' := by
  simp only [Accepts, parse_nullable_eq_ok]
  constructor
  · rintro ⟨w, ⟨rfl, rfl⟩ | ⟨hv, hrequire, ctx', hctx', hw⟩⟩
    · exact .inl rfl
    · exact .inr ⟨hv, hrequire, ctx', hctx', w, hw⟩
  · rintro (rfl | ⟨hv, hrequire, ctx', hctx', w, hw⟩)
    · exact ⟨.null, .inl ⟨rfl, rfl⟩⟩
    · exact ⟨w, .inr ⟨hv, hrequire, ctx', hctx', hw⟩⟩

/-- A field has a value if it is a checkbox that is not given, or its input is accepted. -/
theorem exists_fieldYields_iff {entries : List (Value × Value)} {field : Value × Schema} :
    (∃ w, FieldYields setting ctx entries field w) ↔
      Entries.get? field.1 entries = none ∧ field.2.tag = .checkbox ∨
      ∃ v inner, Entries.get? field.1 entries = some v ∧ field.2.require = .ok () ∧
        ctx.child field.1 = .ok inner ∧ field.2.Accepts setting v inner := by
  have hchild : ∀ v w, parseChild setting ctx field v = .ok w ↔ field.2.require = .ok () ∧
      ∃ inner, ctx.child field.1 = .ok inner ∧ field.2.parse setting v inner = .ok w := by
    intro v w
    simp [parseChild, bind_eq_ok, ofFault_eq_ok]
  constructor
  · rintro ⟨w, ⟨absent, checkbox⟩ | ⟨given, accepts⟩⟩
    · exact .inl ⟨absent, checkbox⟩
    · obtain ⟨hrequire, inner, hinner, hw⟩ := (hchild _ _).mp accepts
      exact .inr ⟨_, inner, given, hrequire, hinner, w, hw⟩
  · rintro (⟨absent, checkbox⟩ | ⟨v, inner, given, hrequire, hinner, w, hw⟩)
    · exact ⟨_, .off absent checkbox⟩
    · exact ⟨w, .parsed given ((hchild _ _).mpr ⟨hrequire, inner, hinner, hw⟩)⟩

theorem accepts_object_iff {fields : List (Value × Schema)} :
    (object fields samples).Accepts setting v ctx ↔
      ∃ entries, v = .dict entries ∧ ∀ field ∈ fields, leavesOut entries field = false →
        ∃ w, FieldYields setting ctx entries field w := by
  have hfields : ∀ entries, (∃ out, parseFields setting fields entries ctx = .ok out) ↔
      ∀ field ∈ fields, leavesOut entries field = false →
        ∃ w, FieldYields setting ctx entries field w := by
    intro entries
    rw [parseFields_eq_mapM, Outcome.exists_mapM_eq_ok_iff]
    simp only [List.mem_filter, Bool.not_eq_true', and_imp, map_eq_ok, parseField_eq_ok_iff]
    refine forall₂_congr fun field _ => imp_congr_right fun _ => ?_
    constructor
    · rintro ⟨_, w, hw, rfl⟩
      exact ⟨w, hw⟩
    · rintro ⟨w, hw⟩
      exact ⟨_, w, hw, rfl⟩
  simp only [← hfields]
  rw [Accepts]
  simp only [parse_object_eq_ok]
  constructor
  · rintro ⟨w, entries, out, rfl, hout, rfl⟩
    exact ⟨entries, rfl, out, hout⟩
  · rintro ⟨entries, rfl, out, hout⟩
    exact ⟨_, entries, out, rfl, hout, rfl⟩

/-! ## Schemas that resemble each other -/

/-- Schemas of leaves, arrays, objects, nullable and optional values that only differ in what the
user says about samples and in the order of fields. -/
inductive Resembles : Schema → Schema → Prop
  | leaf (atom : Leaf) (samples samples' : Option SampleOptions) :
      Resembles (.leaf atom samples) (.leaf atom samples')
  | array {item item' : Schema} (rule : ArrayRule) (samples samples' : Option SampleOptions)
      (resembles : Resembles item item') :
      Resembles (.array item rule samples) (.array item' rule samples')
  | nullable {inner inner' : Schema} (samples samples' : Option SampleOptions)
      (resembles : Resembles inner inner') :
      Resembles (.nullable inner samples) (.nullable inner' samples')
  | optional {inner inner' : Schema} (resembles : Resembles inner inner') :
      Resembles (.optional inner) (.optional inner')
  | object {fields fields' : List (Value × Schema)} (samples samples' : Option SampleOptions)
      (partner : Value × Schema → Value × Schema)
      (found : ∀ field ∈ fields', partner field ∈ fields ∧ (partner field).1 = field.1)
      (all : ∀ field ∈ fields, ∃ field' ∈ fields', partner field' = field)
      (resembles : ∀ field ∈ fields', Resembles (partner field).2 field.2) :
      Resembles (.object fields samples) (.object fields' samples')

namespace Resembles

variable {s t : Schema}

theorem tag_eq (h : s.Resembles t) : s.tag = t.tag := by
  cases h with
  | leaf atom samples samples' => cases atom <;> rfl
  | _ => rfl

theorem require_eq (h : s.Resembles t) : s.require = t.require := by
  cases h <;> rfl

/-- Schemas that resemble each other accept the same inputs. -/
theorem accepts (h : s.Resembles t) (hs : s.Accepts setting v ctx) : t.Accepts setting v ctx := by
  induction h generalizing v ctx with
  | leaf atom samples samples' => exact hs
  | array rule samples samples' _ ih =>
    obtain ⟨items, inner, hitems, hinner, haccepts⟩ := accepts_array_iff.mp hs
    exact accepts_array_iff.mpr ⟨items, inner, hitems, hinner, fun e he => ih (haccepts e he)⟩
  | nullable samples samples' resembles ih =>
    rcases accepts_nullable_iff.mp hs with rfl | ⟨hv, hrequire, ctx', hctx', hinner⟩
    · exact accepts_nullable_iff.mpr (.inl rfl)
    · exact accepts_nullable_iff.mpr
        (.inr ⟨hv, resembles.require_eq ▸ hrequire, ctx', hctx', ih hinner⟩)
  | optional _ ih => exact ih hs
  | @object fields fields' samples samples' partner found all resembles ih =>
    obtain ⟨entries, rfl, hfields⟩ := accepts_object_iff.mp hs
    refine accepts_object_iff.mpr ⟨entries, rfl, fun field hfield hkept => ?_⟩
    obtain ⟨hmem, hkey⟩ := found field hfield
    have htag := (resembles field hfield).tag_eq
    have hkept' : leavesOut entries (partner field) = false := by
      rwa [leavesOut, hkey, htag]
    rw [exists_fieldYields_iff]
    rcases exists_fieldYields_iff.mp (hfields _ hmem hkept') with
      ⟨habsent, hcheckbox⟩ | ⟨w, inner, hgiven, hrequire, hinner, haccepts⟩
    · exact .inl ⟨hkey ▸ habsent, htag ▸ hcheckbox⟩
    · exact .inr ⟨w, inner, hkey ▸ hgiven, (resembles field hfield).require_eq ▸ hrequire,
        hkey ▸ hinner, ih field hfield haccepts⟩

end Resembles

end Schema

end Intake
