import Intake.Proofs.Context
import Intake.Proofs.Schema.Nodes

/-!
# Objects as projections

An object takes its declared fields from an input, in the order of their declaration.  A field is
left out, or it comes to a value by itself, or it fails by itself; the first one that fails ends the
parse.  So nothing else in the input matters, neither other keys nor the order of the keys.

## Main definitions

* `Schema.leavesOut` — the fields that are left out of a result.
* `Schema.parseChild` — what the input of a field comes to.
* `Schema.FieldYields`, `Schema.FieldBreaks` — the value of a field, and how it fails.

## Main statements

* `Schema.parseFields_eq_mapM` — the fields that are not left out are parsed one by one.
* `Schema.parse_object_projects` — the outcome of an object, in terms of its declared fields.
-/

namespace Intake

open Outcome (bind_eq_ok bind_eq_error map_eq_ok map_eq_error)

namespace Schema

variable {setting : Setting} {ctx : Context} {entries : List (Value × Value)}
  {fields : List (Value × Schema)} {field : Value × Schema}

/-! ## Single fields -/

/-- Whether a field is left out of a result: it is optional, and its input is absent, null or
undefined. -/
def leavesOut (entries : List (Value × Value)) (field : Value × Schema) : Bool :=
  (Entries.get? field.1 entries).all Value.isAbsent && field.2.tag = .optional

/-- What the input of a field comes to by its schema, in the context of a child. -/
def parseChild (setting : Setting) (ctx : Context) (field : Value × Schema) (v : Value) :
    Outcome Value := do
  Outcome.ofFault field.2.require
  field.2.parse setting v (← Outcome.ofFault (ctx.child field.1))

/-- What a field that is not left out comes to. -/
def parseField (setting : Setting) (ctx : Context) (entries : List (Value × Value))
    (field : Value × Schema) : Outcome Value :=
  match Entries.get? field.1 entries with
  | some v => parseChild setting ctx field v
  | none =>
    if field.2.tag = .checkbox then .ok (.bool false)
    else do
      let name ← Outcome.ofFault field.1.json
      ctx.reject (ctx.expected "object") ("missing " ++ name)

theorem parseField_of_some {v : Value} (h : Entries.get? field.1 entries = some v) :
    parseField setting ctx entries field = parseChild setting ctx field v := by
  simp only [parseField, h]

/-- The value of a field: a checkbox that is not given is off, and all else is parsed. -/
inductive FieldYields (setting : Setting) (ctx : Context) (entries : List (Value × Value))
    (field : Value × Schema) : Value → Prop
  | off (absent : Entries.get? field.1 entries = none) (checkbox : field.2.tag = .checkbox) :
      FieldYields setting ctx entries field (.bool false)
  | parsed {v w : Value} (given : Entries.get? field.1 entries = some v)
      (accepts : parseChild setting ctx field v = .ok w) : FieldYields setting ctx entries field w

/-- How a field fails: it is missing where it has to be there, or its input fails by itself. -/
inductive FieldBreaks (setting : Setting) (ctx : Context) (entries : List (Value × Value))
    (field : Value × Schema) : Failure → Prop
  | missing {key : String} {e : Failure} (named : field.1 = .text key)
      (absent : Entries.get? field.1 entries = none) (required : field.2.tag = .none)
      (rejects : (ctx.reject (ctx.expected "object") ("missing " ++ Text.quoteJson key) :
        Outcome Value) = .error e) : FieldBreaks setting ctx entries field e
  | failed {v : Value} {e : Failure} (given : Entries.get? field.1 entries = some v)
      (kept : leavesOut entries field = false)
      (fails : parseChild setting ctx field v = .error e) : FieldBreaks setting ctx entries field e

theorem parseField_eq_ok_iff {w : Value} :
    parseField setting ctx entries field = .ok w ↔ FieldYields setting ctx entries field w := by
  rw [parseField]
  constructor
  · intro h
    split at h
    · exact .parsed ‹_› h
    · split at h
      · cases h
        exact .off ‹_› ‹_›
      · obtain ⟨name, -, h⟩ := bind_eq_ok.mp h
        simp at h
  · rintro (⟨absent, checkbox⟩ | ⟨given, accepts⟩)
    · rw [absent]
      exact if_pos checkbox
    · rw [given]
      exact accepts

theorem parseField_eq_error_iff {key : String} {s : Schema} {e : Failure}
    (hkept : leavesOut entries (.text key, s) = false) :
    parseField setting ctx entries (.text key, s) = .error e ↔
      FieldBreaks setting ctx entries (.text key, s) e := by
  rw [parseField]
  constructor
  · intro h
    split at h
    · exact .failed ‹_› hkept h
    · rename_i habsent
      split at h
      · cases h
      · rename_i hcheckbox
        have htag : s.tag = .none := by
          cases htag : s.tag with
          | none => rfl
          | optional =>
            have habsent : Entries.get? (.text key) entries = none := habsent
            simp [leavesOut, htag, habsent] at hkept
          | checkbox => exact absurd htag hcheckbox
        exact .missing rfl habsent htag h
  · rintro (⟨⟨⟩, absent, required, rejects⟩ | ⟨given, -, fails⟩)
    · rw [absent]
      simp only [required, reduceCtorEq, if_false]
      exact rejects
    · rw [given]
      exact fails

/-! ## All fields -/

/-- A field is left out, or it is parsed before the others. -/
theorem parseFields_cons : parseFields setting (field :: fields) entries ctx =
    if leavesOut entries field then parseFields setting fields entries ctx
    else do
      let w ← parseField setting ctx entries field
      return (field.1, w) :: (← parseFields setting fields entries ctx) := by
  obtain ⟨key, s⟩ := field
  rw [parseFields, leavesOut, parseField]
  dsimp only
  cases Entries.get? key entries with
  | none => cases s.tag <;> simp [Presence.of, Context.reject_bind]
  | some v =>
    rw [Presence.of, Option.all_some]
    cases v.isAbsent && decide (s.tag = .optional) with
    | true => rfl
    | false => simp [parseChild]

/-- The fields that are not left out are parsed one by one. -/
theorem parseFields_eq_mapM : parseFields setting fields entries ctx =
    (fields.filter fun field => !leavesOut entries field).mapM fun field =>
      (field.1, ·) <$> parseField setting ctx entries field := by
  induction fields with
  | nil => rfl
  | cons field fields ih =>
    rw [parseFields_cons, ih, List.filter_cons]
    cases leavesOut entries field <;> simp

/-- Pairs are a list of first parts and a list of second parts. -/
theorem forall₂_pairs {α β γ : Type} {R : α → γ → Prop} {f : α → β} {as : List α}
    {pairs : List (β × γ)} :
    List.Forall₂ (fun a pair => ∃ c, R a c ∧ (f a, c) = pair) as pairs ↔
      pairs.map Prod.fst = as.map f ∧ List.Forall₂ R as (pairs.map Prod.snd) := by
  induction as generalizing pairs with
  | nil => cases pairs <;> simp
  | cons a as ih =>
    cases pairs with
    | nil => simp
    | cons pair pairs =>
      obtain ⟨b, c⟩ := pair
      simp only [List.forall₂_cons, ih, List.map_cons, List.cons.injEq, Prod.mk.injEq]
      constructor
      · rintro ⟨⟨_, hR, rfl, rfl⟩, hfirst, hsecond⟩
        exact ⟨⟨rfl, hfirst⟩, hR, hsecond⟩
      · rintro ⟨⟨rfl, hfirst⟩, hR, hsecond⟩
        exact ⟨⟨c, hR, rfl, rfl⟩, hfirst, hsecond⟩

/-- The fields of a result are those that are not left out, in their order and with their values. -/
theorem parseFields_eq_ok_iff {out : List (Value × Value)} :
    parseFields setting fields entries ctx = .ok out ↔
      out.map Prod.fst = (fields.filter fun field => !leavesOut entries field).map Prod.fst ∧
        List.Forall₂ (FieldYields setting ctx entries)
          (fields.filter fun field => !leavesOut entries field) (out.map Prod.snd) := by
  rw [parseFields_eq_mapM, Outcome.mapM_eq_ok_iff, ← forall₂_pairs]
  simp only [map_eq_ok, parseField_eq_ok_iff]

/-- A field that is left out does not fail. -/
theorem not_fieldBreaks_of_leavesOut (h : leavesOut entries field = true) (e : Failure) :
    ¬ FieldBreaks setting ctx entries field e := by
  rintro (⟨-, -, required, -⟩ | ⟨-, kept, -⟩)
  · simp [leavesOut, required] at h
  · exact absurd (h.symm.trans kept) (by decide)

/-- A field fails, or it does not and a later one fails. -/
theorem parseFields_cons_eq_error_iff {key : String} {s : Schema} {e : Failure} :
    parseFields setting ((.text key, s) :: fields) entries ctx = .error e ↔
      FieldBreaks setting ctx entries (.text key, s) e ∨
        (∀ e', ¬ FieldBreaks setting ctx entries (.text key, s) e') ∧
          parseFields setting fields entries ctx = .error e := by
  rw [parseFields_cons]
  cases hgone : leavesOut entries (.text key, s) with
  | true =>
    have hpasses : ∀ e', ¬ FieldBreaks setting ctx entries (.text key, s) e' :=
      not_fieldBreaks_of_leavesOut hgone
    simp [hpasses]
  | false =>
    simp only [← parseField_eq_error_iff hgone]
    cases parseField setting ctx entries (.text key, s) with
    | error e' => simp
    | ok w => simp [bind_eq_error]

/-- An object fails with the first of its fields that fails. -/
theorem parseFields_eq_error_iff (hkeys : ∀ field ∈ fields, ∃ key, field.1 = .text key)
    {e : Failure} :
    parseFields setting fields entries ctx = .error e ↔
      ∃ before field after, fields = before ++ field :: after ∧
        (∀ earlier ∈ before, ∀ e', ¬ FieldBreaks setting ctx entries earlier e') ∧
        FieldBreaks setting ctx entries field e := by
  induction fields with
  | nil => simp [parseFields]
  | cons field fields ih =>
    obtain ⟨⟨key, hkey⟩, hrest⟩ := List.forall_mem_cons.mp hkeys
    obtain ⟨_, s⟩ := field
    obtain rfl : _ = Value.text key := hkey
    rw [parseFields_cons_eq_error_iff, ih hrest]
    constructor
    · rintro (h | ⟨hpasses, before, field, after, rfl, hbefore, h⟩)
      · exact ⟨[], _, fields, rfl, by simp, h⟩
      · exact ⟨_ :: before, field, after, rfl, List.forall_mem_cons.mpr ⟨hpasses, hbefore⟩, h⟩
    · rintro ⟨before, field, after, heq, hbefore, h⟩
      cases before with
      | nil =>
        cases heq
        exact .inl h
      | cons first before =>
        cases heq
        obtain ⟨hpasses, hbefore⟩ := List.forall_mem_cons.mp hbefore
        exact .inr ⟨hpasses, before, field, after, rfl, hbefore, h⟩

/-- All members of a list have a property, or there is a first one that has not. -/
theorem forall_or_exists_first {α : Type} (P : α → Prop) (as : List α) :
    (∀ a ∈ as, P a) ∨
      ∃ before a after, as = before ++ a :: after ∧ (∀ b ∈ before, P b) ∧ ¬ P a := by
  induction as with
  | nil => exact .inl (by simp)
  | cons a as ih =>
    by_cases ha : P a
    · rcases ih with hall | ⟨before, b, after, rfl, hbefore, hb⟩
      · exact .inl (List.forall_mem_cons.mpr ⟨ha, hall⟩)
      · exact .inr ⟨a :: before, b, after, rfl, List.forall_mem_cons.mpr ⟨ha, hbefore⟩, hb⟩
    · exact .inr ⟨[], a, as, rfl, by simp, ha⟩

/-- None of some fields fails if and only if they all come out. -/
theorem forall_not_fieldBreaks_iff (hkeys : ∀ field ∈ fields, ∃ key, field.1 = .text key) :
    (∀ field ∈ fields, ∀ e, ¬ FieldBreaks setting ctx entries field e) ↔
      ∃ kept, parseFields setting fields entries ctx = .ok kept := by
  cases hparse : parseFields setting fields entries ctx with
  | ok kept =>
    refine iff_of_true ?_ ⟨kept, rfl⟩
    rcases forall_or_exists_first (fun field => ∀ e, ¬ FieldBreaks setting ctx entries field e)
      fields with hpasses | ⟨before, field, after, hsplit, hbefore, hfield⟩
    · exact hpasses
    · obtain ⟨e, hbreaks⟩ := not_forall_not.mp hfield
      have hfails := (parseFields_eq_error_iff hkeys).mpr
        ⟨before, field, after, hsplit, hbefore, hbreaks⟩
      cases hparse.symm.trans hfails
  | error e =>
    obtain ⟨before, field, after, rfl, -, hbreaks⟩ := (parseFields_eq_error_iff hkeys).mp hparse
    exact iff_of_false (fun hpasses => hpasses field (by simp) e hbreaks) (by simp)

/-- A field is parsed under the name of its object and its own key. -/
theorem parseChild_of_plain (hctx : ctx.Plain) (key : String) (s : Schema) (v : Value) :
    parseChild setting ctx (.text key, s) v =
      s.parse setting v { name := dottedName ctx.name [key] } := by
  rw [parseChild, hctx.child_eq]
  cases s <;> rfl

/-- An object has a value if every field that is not left out has one, and it fails with the first
field that fails.  So inputs that agree on the declared keys have the same outcome. -/
theorem parse_object_projects {samples : Option SampleOptions}
    (hkeys : ∀ field ∈ fields, ∃ key, field.1 = .text key) :
    (∀ entries others,
      (∀ field ∈ fields, Entries.get? field.1 entries = Entries.get? field.1 others) →
        (object fields samples).parse setting (.dict entries) ctx =
          (object fields samples).parse setting (.dict others) ctx) ∧
    (∀ entries w, (object fields samples).parse setting (.dict entries) ctx = .ok w ↔
      ∃ out, w = .dict out ∧
        out.map Prod.fst = (fields.filter fun field => !leavesOut entries field).map Prod.fst ∧
        List.Forall₂ (FieldYields setting ctx entries)
          (fields.filter fun field => !leavesOut entries field) (out.map Prod.snd)) ∧
    (∀ entries e, (object fields samples).parse setting (.dict entries) ctx = .error e ↔
      ∃ before field after, fields = before ++ field :: after ∧
        (∀ earlier ∈ before, ∀ e', ¬ FieldBreaks setting ctx entries earlier e') ∧
        FieldBreaks setting ctx entries field e) ∧
    (ctx.Plain → ∀ key s v, parseChild setting ctx (.text key, s) v =
      s.parse setting v { name := dottedName ctx.name [key] }) := by
  refine ⟨fun entries others h => ?_, fun entries w => ?_, fun entries e => ?_, parseChild_of_plain⟩
  · rw [parse, parse, parseFields_congr h]
  · simp only [parse, map_eq_ok, parseFields_eq_ok_iff]
    constructor
    · rintro ⟨out, hout, rfl⟩
      exact ⟨out, rfl, hout⟩
    · rintro ⟨out, rfl, hout⟩
      exact ⟨out, hout, rfl⟩
  · rw [parse, map_eq_error, parseFields_eq_error_iff hkeys]

/-- The fields of an account: one that is asked for, one that may be left out, and a checkbox. -/
def accountFields : List (Value × Schema) :=
  [(.text "name", .leaf (.string {}) none),
   (.text "admin", .optional (.leaf (.boolean none) none)),
   (.text "news", .leaf .checkbox none)]

/-- An account as its form sends it, and one that somebody has put more into. -/
def accountEntries : List (Value × Value) :=
  [(.text "name", .text " Ada "), (.text "admin", .null)]

@[inherit_doc accountEntries]
def smuggledEntries : List (Value × Value) :=
  [(.text "role", .text "root"), (.text "admin", .null), (.text "name", .text " Ada ")]

theorem parse_object_projects_account :
    (∀ field ∈ accountFields, ∃ key, field.1 = .text key) ∧
    (object accountFields none).parse "en" (.dict smuggledEntries) .root =
      (object accountFields none).parse "en" (.dict accountEntries) .root ∧
    (object accountFields none).parse "en" (.dict accountEntries) .root =
      .ok (.dict [(.text "name", .text "Ada"), (.text "news", .bool false)]) ∧
    (object accountFields none).parse "en" (.dict []) .root =
      .error (.rejected (.mk "Invalid object, missing \"name\"" .null .null "object"
        "missing \"name\"" .null [])) := by
  have hkeys : ∀ field ∈ accountFields, ∃ key, field.1 = .text key := by simp [accountFields]
  refine ⟨hkeys, (parse_object_projects hkeys).1 _ _ ?_,
    ((parse_object_projects hkeys).2.1 _ _).mpr ⟨_, rfl, rfl, ?_⟩,
    ((parse_object_projects hkeys).2.2.1 _ _).mpr ?_⟩
  · simp only [accountFields, List.forall_mem_cons]
    exact ⟨rfl, rfl, rfl, by simp⟩
  · exact .cons (.parsed rfl rfl) (.cons (.off rfl rfl) .nil)
  · exact ⟨[], _, _, rfl, by simp, .missing rfl rfl rfl rfl⟩

end Schema

end Intake
