import Intake.Proofs.RecordLibrary
import Intake.Proofs.Schema.Projection
import Intake.Proofs.Value.Equality
import Intake.Proofs.Value.Entries
import Mathlib.Data.List.Nodup

/-!
# Record models and their objects

The record of an object schema and the schema itself read a payload field by field.  The record
reports every field that is wrong, and the object ends with the first.  A record has a value for
each of its attributes, and an object leaves out what is not there.  Else they agree: on each field,
and from that on all of them.  Which library makes the record is of no importance, if it is lawful.

## Main definitions

* `Schema.named` — the fields of an object, by keys of text.
* `RecordModel.FieldAgrees`, `RecordModel.Agrees` — what a record makes of a field, and of a
  payload, next to what an object makes of it.

## Main statements

* `RecordModel.ofSchema_named`, `RecordModel.exists_create` — object schemas have records.
* `RecordModel.read_agrees` — the agreement on a field.
* `RecordModel.validate_agrees` — the agreement on a payload.
-/

namespace Intake

open Outcome (bind_eq_ok)

variable {lib : RecordLibrary} {setting : Setting} {payload : List (Value × Value)}
  {field : String × Schema} {fields : List (String × Schema)}

/-! ## Objects by keys of text -/

namespace Schema

/-- The fields of an object, by keys of text. -/
def named (fields : List (String × Schema)) : List (Value × Schema) :=
  fields.map fun field => (.text field.1, field.2)

theorem forall_mem_named : ∀ field ∈ named fields, ∃ key, field.1 = .text key := by
  rw [named, List.forall_mem_map]
  intro field _
  exact ⟨field.1, rfl⟩

/-- A schema that has fields parses as the object of these fields. -/
theorem parse_eq_of_fields? {s : Schema} {fields : List (Value × Schema)} {v : Value}
    {ctx : Context} (h : s.fields? = some fields) :
    s.parse setting v ctx = (object fields none).parse setting v ctx := by
  fun_induction fields? s with
  | case1 given samples =>
    cases h
    cases v <;> rfl
  | case2 inner ih => exact ih h
  | case3 => cases h

/-- A key that no field has is not in a result. -/
theorem get?_of_parseFields_of_notMem {out : List (Value × Value)} {ctx : Context} {key : String}
    (hkey : key ∉ fields.map Prod.fst)
    (hout : parseFields setting (named fields) payload ctx = .ok out) :
    Entries.get? (.text key) out = none := by
  refine get?_eq_none_of_parseFields hout fun field' hfield' => ?_
  obtain ⟨field, hfield, rfl⟩ := List.mem_map.mp hfield'
  rw [Value.sameKey_text, decide_eq_false_iff_not]
  rintro rfl
  exact hkey (List.mem_map_of_mem hfield)

/-- What is bound to the key of a field in a result: nothing if the field is left out, and else
what the field comes to. -/
theorem get?_of_parseFields {out : List (Value × Value)} {ctx : Context}
    (hdistinct : (fields.map Prod.fst).Nodup)
    (hout : parseFields setting (named fields) payload ctx = .ok out) :
    ∀ field ∈ fields, if leavesOut payload (.text field.1, field.2) then
      Entries.get? (.text field.1) out = none
    else ∃ w, parseField setting ctx payload (.text field.1, field.2) = .ok w ∧
      Entries.get? (.text field.1) out = some w := by
  induction fields generalizing out with
  | nil => simp
  | cons field fields ih =>
    obtain ⟨hnew, hdistinct⟩ := List.nodup_cons.mp hdistinct
    rw [named, List.map_cons, parseFields_cons] at hout
    cases hgone : leavesOut payload (.text field.1, field.2) with
    | true =>
      rw [hgone, if_pos rfl] at hout
      refine List.forall_mem_cons.mpr ⟨?_, ih hdistinct hout⟩
      rw [hgone, if_pos rfl]
      exact get?_of_parseFields_of_notMem hnew hout
    | false =>
      rw [hgone] at hout
      obtain ⟨w, hw, hout⟩ := bind_eq_ok.mp hout
      obtain ⟨rest, hrest, hout⟩ := bind_eq_ok.mp hout
      cases hout
      refine List.forall_mem_cons.mpr ⟨?_, fun later hlater => ?_⟩
      · rw [hgone]
        refine ⟨w, hw, ?_⟩
        simp [Entries.get?]
      · -- the first entry has another key, so that look-up goes on to the rest
        have hother : field.1 ≠ later.1 := by
          rintro hsame
          exact hnew (hsame ▸ List.mem_map_of_mem hlater)
        have hskip : Entries.get? (.text later.1) ((.text field.1, w) :: rest) =
            Entries.get? (.text later.1) rest := by
          simp [Entries.get?, hother]
        rw [hskip]
        exact ih hdistinct hrest later hlater

end Schema

/-! ## Records of objects -/

/-- The field of a record for a key with a schema. -/
def RecordField.of (field : String × Schema) : RecordField :=
  ⟨attributeName field.1, field.1, field.2⟩

/-- A field keeps its key, as an alias where the attribute has another name. -/
@[simp] theorem RecordField.key_declaration (field : RecordField) :
    field.declaration.key = field.key := by
  simp only [declaration, FieldDeclaration.key, alias?]
  split
  · assumption
  · rfl

/-- A field is parsed under its own key, unless null stands for itself. -/
theorem RecordField.parse_of {key : String} {s : Schema} {v : Value}
    (h : v = .null → s.tag ≠ .optional) :
    (RecordField.of (key, s)).parse setting v = s.parse setting v { name := .text key } := by
  unfold RecordField.parse
  split
  · rename_i htag
    exact absurd htag (h rfl)
  · rfl

/-- A field with a new attribute goes to the end. -/
theorem putField_of_forall {field : RecordField} {placed : List RecordField}
    (h : ∀ other ∈ placed, other.name ≠ field.name) :
    putField field placed = placed ++ [field] := by
  induction placed with
  | nil => rfl
  | cons other placed ih =>
    obtain ⟨hother, hrest⟩ := List.forall_mem_cons.mp h
    rw [putField, if_neg hother, ih hrest]
    rfl

/-- Fields with distinct attributes stay in their order. -/
theorem foldl_putField {fields placed : List RecordField}
    (h : ((placed ++ fields).map RecordField.name).Nodup) :
    fields.foldl (fun placed field => putField field placed) placed = placed ++ fields := by
  induction fields generalizing placed with
  | nil => simp
  | cons field fields ih =>
    have hnew : ∀ other ∈ placed, other.name ≠ field.name := by
      intro other hother
      rw [List.map_append] at h
      have hapart := (List.nodup_append.mp h).2.2
      exact hapart _ (List.mem_map_of_mem hother) _ List.mem_cons_self
    rw [List.append_cons] at h
    rw [List.foldl_cons, putField_of_forall hnew, ih h, List.append_assoc]
    rfl

namespace RecordModel

/-- The record of an object has its fields, put in one after the other. -/
theorem ofSchema_eq {name : String} {s : Schema} (hs : s.fields? = some (Schema.named fields)) :
    ofSchema name s =
      .ok ⟨name, (fields.map .of).foldl (fun placed field => putField field placed) []⟩ := by
  have hentries : (Schema.named fields).mapM (fun entry => RecordField.ofEntry entry.1 entry.2) =
      .ok (fields.map .of) := by
    rw [Outcome.mapM_eq_ok_iff, Schema.named, List.forall₂_map_left_iff,
      List.forall₂_map_right_iff, List.forall₂_same]
    intro field _
    rfl
  rw [ofSchema, hs]
  simp only [hentries, Outcome.ok_bind]
  rfl

theorem ofSchema_named {name : String} {s : Schema} (hs : s.fields? = some (Schema.named fields))
    (hdistinct : (fields.map fun field => attributeName field.1).Nodup) :
    ofSchema name s = .ok ⟨name, fields.map .of⟩ := by
  have hplaced : (fields.map RecordField.of).foldl (fun placed field => putField field placed) [] =
      fields.map .of := by
    rw [foldl_putField, List.nil_append]
    rw [List.nil_append, List.map_map]
    exact hdistinct
  rw [ofSchema_eq hs, hplaced]

/-- A library makes a record of fields with distinct attributes that it admits. -/
theorem exists_create (hlib : lib.Lawful) {model : RecordModel} (htitle : lib.titles model.name)
    (hdistinct : (model.fields.map RecordField.name).Nodup)
    (hadmits : ∀ field ∈ model.fields, lib.admits field.name) :
    ∃ made, lib.create model.name model.declarations = .ok made ∧
      lib.fields made = model.declarations := by
  refine hlib.creates model.name model.declarations htitle ?_ ?_
  · rw [declarations, List.map_map]
    exact hdistinct
  · rw [declarations, List.forall_mem_map]
    exact hadmits

end RecordModel

/-! ## Single fields -/

namespace RecordModel

/-- What a record makes of a field, next to what an object makes of it: what the object leaves out
is null, and what the object rejects is missing or no good. -/
inductive FieldAgrees (setting : Setting) (payload : List (Value × Value))
    (field : String × Schema) : Except FieldError Value → Prop
  | omitted (gone : Schema.leavesOut payload (.text field.1, field.2) = true) :
      FieldAgrees setting payload field (.ok .null)
  | value {w : Value} (kept : Schema.leavesOut payload (.text field.1, field.2) = false)
      (accepts : Schema.parseField setting .root payload (.text field.1, field.2) = .ok w) :
      FieldAgrees setting payload field (.ok w)
  | error {r : Rejection} {e : FieldError}
      (kept : Schema.leavesOut payload (.text field.1, field.2) = false)
      (rejects : Schema.parseField setting .root payload (.text field.1, field.2) =
        .error (.rejected r))
      (absent : Entries.get? (.text field.1) payload = none → e.kind = "missing")
      (given : Entries.get? (.text field.1) payload ≠ none → e = .badValue r.message) :
      FieldAgrees setting payload field (.error e)

section Fields

variable {key : String} {s : Schema}

/-- An absent field has a default, or it is missing. -/
theorem read_agrees_of_absent (hlib : lib.Lawful)
    (habsent : Entries.get? (.text key) payload = none) :
    ∃ result, lib.read setting payload (RecordField.of (key, s)).declaration = .ok result ∧
      FieldAgrees setting payload (key, s) result := by
  have hget : Entries.get? (.text (RecordField.of (key, s)).declaration.key) payload = none := by
    rw [RecordField.key_declaration]
    exact habsent
  have hout : Schema.leavesOut payload (.text key, s) = decide (s.tag = .optional) := by
    simp [Schema.leavesOut, habsent]
  cases htag : s.tag with
  | optional =>
    have hdefault : (RecordField.of (key, s)).declaration.default? = some .null := by
      simp [RecordField.declaration, RecordField.default?, RecordField.of, htag]
    exact ⟨_, hlib.defaults setting payload _ _ hget hdefault, .omitted (by simp [hout, htag])⟩
  | checkbox =>
    have hdefault : (RecordField.of (key, s)).declaration.default? = some (.bool false) := by
      simp [RecordField.declaration, RecordField.default?, RecordField.of, htag]
    refine ⟨_, hlib.defaults setting payload _ _ hget hdefault, .value (by simp [hout, htag]) ?_⟩
    simp [Schema.parseField, habsent, htag]
  | none =>
    have hdefault : (RecordField.of (key, s)).declaration.default? = none := by
      simp [RecordField.declaration, RecordField.default?, RecordField.of, htag]
    have hkept : Schema.leavesOut payload (.text key, s) = false := by simp [hout, htag]
    obtain ⟨message, hmessage⟩ := Context.plain_root.reject (α := Value) "object"
      ("missing " ++ Text.quoteJson key) []
    obtain ⟨e, hread, hmissing⟩ := hlib.requires setting payload _ hget hdefault
    exact ⟨_, hread, .error hkept
      ((Schema.parseField_eq_error_iff hkept).mpr (.missing rfl habsent htag hmessage))
      (fun _ => hmissing) fun hgiven => absurd habsent hgiven⟩

/-- A field with an input: null stands for itself where it is left out, and else it is parsed under
its own key. -/
theorem read_agrees_of_given (hlib : lib.Lawful) {v : Value}
    (hgiven : Entries.get? (.text key) payload = some v)
    (hundefined : s.tag = .optional → v ≠ .undefined)
    (hanswers : ¬ (s.parse setting v { name := .text key }).Faults) :
    ∃ result, lib.read setting payload (RecordField.of (key, s)).declaration = .ok result ∧
      FieldAgrees setting payload (key, s) result := by
  have hget : Entries.get? (.text (RecordField.of (key, s)).declaration.key) payload = some v := by
    rw [RecordField.key_declaration]
    exact hgiven
  cases hout : Schema.leavesOut payload (.text key, s) with
  | true =>
    have hnull : v = .null ∧ s.tag = .optional := by
      simp only [Schema.leavesOut, hgiven, Option.all_some, Bool.and_eq_true,
        decide_eq_true_eq] at hout
      obtain ⟨habsent, htag⟩ := hout
      cases v with
      | null => exact ⟨rfl, htag⟩
      | undefined => exact absurd rfl (hundefined htag)
      | _ => cases habsent
    obtain ⟨rfl, htag⟩ := hnull
    have hparse : (RecordField.of (key, s)).parse setting .null = .ok .null := by
      simp only [RecordField.parse, RecordField.of, htag]
    exact ⟨_, hlib.converts setting payload _ _ _ hget hparse, .omitted hout⟩
  | false =>
    have hparse : (RecordField.of (key, s)).parse setting v =
        s.parse setting v { name := .text key } := by
      refine RecordField.parse_of fun hv htag => ?_
      simp [Schema.leavesOut, hgiven, hv, htag, Value.isAbsent] at hout
    have hfield : Schema.parseField setting .root payload (.text key, s) =
        s.parse setting v { name := .text key } := by
      rw [Schema.parseField_of_some hgiven, Schema.parseChild_of_plain Context.plain_root]
      rfl
    rcases Outcome.not_faults_iff.mp hanswers with ⟨w, hw⟩ | ⟨r, hr⟩
    · exact ⟨_, hlib.converts setting payload _ _ _ hget (hparse.trans hw),
        .value hout (hfield.trans hw)⟩
    · exact ⟨_, hlib.reports setting payload _ _ _ _ hget (hparse.trans hr) rfl,
        .error hout (hfield.trans hr) (fun habsent => by cases hgiven.symm.trans habsent)
          fun _ => rfl⟩

end Fields

/-- A record and an object agree on a field whose input does not lead to a fault. -/
theorem read_agrees (hlib : lib.Lawful)
    (hundefined : field.2.tag = .optional → Entries.get? (.text field.1) payload ≠ some .undefined)
    (hanswers : ∀ v, Entries.get? (.text field.1) payload = some v →
      ¬ (field.2.parse setting v { name := .text field.1 }).Faults) :
    ∃ result, lib.read setting payload (RecordField.of field).declaration = .ok result ∧
      FieldAgrees setting payload field result := by
  cases hget : Entries.get? (.text field.1) payload with
  | none => exact read_agrees_of_absent hlib hget
  | some v =>
    rw [hget] at hundefined
    exact read_agrees_of_given hlib hget (fun htag hv => hundefined htag (hv ▸ rfl))
      (hanswers v hget)

/-! ## Payloads -/

section Payloads

variable {answer : String × Schema → Except FieldError Value} {out : List (Value × Value)}

/-- If an object has a value, the record has it field by field, and null for what is left out. -/
theorem answer_eq_of_parseFields (hdistinct : (fields.map Prod.fst).Nodup)
    (hagrees : ∀ field ∈ fields, FieldAgrees setting payload field (answer field))
    (hout : Schema.parseFields setting (Schema.named fields) payload .root = .ok out) :
    ∀ field ∈ fields, answer field = .ok ((Entries.get? (.text field.1) out).getD .null) := by
  intro field hfield
  have hget := Schema.get?_of_parseFields hdistinct hout field hfield
  have hfield := hagrees field hfield
  generalize answer field = result at hfield ⊢
  cases hfield with
  | omitted gone =>
    rw [if_pos gone] at hget
    rw [hget]
    rfl
  | value kept accepts =>
    rw [if_neg (Bool.eq_false_iff.mp kept)] at hget
    obtain ⟨w, hw, hget⟩ := hget
    cases hw.symm.trans accepts
    rw [hget]
    rfl
  | error kept rejects absent given =>
    rw [if_neg (Bool.eq_false_iff.mp kept)] at hget
    obtain ⟨w, hw, -⟩ := hget
    cases hw.symm.trans rejects

/-- A field that does not break has an attribute. -/
theorem exists_answer_eq_ok (hagrees : FieldAgrees setting payload field (answer field))
    (hpasses : ∀ e, ¬ Schema.FieldBreaks setting .root payload (.text field.1, field.2) e) :
    ∃ w, answer field = .ok w := by
  generalize answer field = result at hagrees ⊢
  cases hagrees with
  | omitted => exact ⟨_, rfl⟩
  | value => exact ⟨_, rfl⟩
  | error kept rejects absent given =>
    exact absurd ((Schema.parseField_eq_error_iff kept).mp rejects) (hpasses _)

/-- A field that breaks is wrong in the record too: it is missing, or its value is no good. -/
theorem exists_answer_eq_error {failure : Failure}
    (hagrees : FieldAgrees setting payload field (answer field))
    (hbreaks : Schema.FieldBreaks setting .root payload (.text field.1, field.2) failure) :
    ∃ r e, failure = .rejected r ∧ answer field = .error e ∧
      (Entries.get? (.text field.1) payload = none → e.kind = "missing") ∧
      (Entries.get? (.text field.1) payload ≠ none → e = .badValue r.message) := by
  generalize answer field = result at hagrees ⊢
  cases hagrees with
  | omitted gone => exact absurd hbreaks (Schema.not_fieldBreaks_of_leavesOut gone _)
  | value kept accepts =>
    have hfails := (Schema.parseField_eq_error_iff kept).mpr hbreaks
    cases hfails.symm.trans accepts
  | error kept rejects absent given =>
    have hfails := (Schema.parseField_eq_error_iff kept).mpr hbreaks
    cases hfails.symm.trans rejects
    exact ⟨_, _, rfl, rfl, absent, given⟩

/-- What a record makes of a payload, next to what an object makes of it: its attributes are the
values of the object, with null for those that are left out, or its first error is about the field
that ends the object. -/
inductive Agrees (setting : Setting) (payload : List (Value × Value))
    (fields : List (String × Schema)) : Outcome Value → Except Fault RecordAnswer → Prop
  | accepted (out : List (Value × Value)) :
      Agrees setting payload fields (.ok (.dict out))
        (.ok (.ok (fields.map fun field =>
          (attributeName field.1, (Entries.get? (.text field.1) out).getD .null))))
  | rejected {before after : List (String × Schema)} {key : String} {s : Schema} {r : Rejection}
      {e : FieldError} (others : List (Option String × FieldError))
      (split : fields = before ++ (key, s) :: after)
      (passed : ∀ earlier ∈ before, ∀ e,
        ¬ Schema.FieldBreaks setting .root payload (.text earlier.1, earlier.2) e)
      (breaks : Schema.FieldBreaks setting .root payload (.text key, s) (.rejected r))
      (absent : Entries.get? (.text key) payload = none → e.kind = "missing")
      (given : Entries.get? (.text key) payload ≠ none →
        e.kind = "value_error" ∧ e.text = "Value error, " ++ r.message) :
      Agrees setting payload fields (.error (.rejected r)) (.ok (.error ((some key, e) :: others)))

/-- What a record makes of a payload that an object accepts. -/
theorem agrees_of_parseFields_eq_ok (hdistinct : (fields.map Prod.fst).Nodup)
    (hagrees : ∀ field ∈ fields, FieldAgrees setting payload field (answer field))
    (hout : Schema.parseFields setting (Schema.named fields) payload .root = .ok out) :
    Agrees setting payload fields (.ok (.dict out))
      (.ok (.ofResults
        (fields.map fun field => ((RecordField.of field).declaration, answer field)))) := by
  rw [RecordAnswer.ofResults_of_forall (answer_eq_of_parseFields hdistinct hagrees hout)]
  exact .accepted out

/-- What a record makes of a payload that ends an object. -/
theorem agrees_of_parseFields_eq_error {failure : Failure}
    (hagrees : ∀ field ∈ fields, FieldAgrees setting payload field (answer field))
    (hfails : Schema.parseFields setting (Schema.named fields) payload .root = .error failure) :
    Agrees setting payload fields (.error failure)
      (.ok (.ofResults
        (fields.map fun field => ((RecordField.of field).declaration, answer field)))) := by
  obtain ⟨before, field, after, hsplit, hpassed, hbreaks⟩ :=
    (Schema.parseFields_eq_error_iff Schema.forall_mem_named).mp hfails
  obtain ⟨before, rest, rfl, rfl, hrest⟩ := List.map_eq_append_iff.mp hsplit
  obtain ⟨⟨key, s⟩, after, rfl, rfl, rfl⟩ := List.map_eq_cons_iff.mp hrest
  have hpassed : ∀ earlier ∈ before, ∀ e,
      ¬ Schema.FieldBreaks setting .root payload (.text earlier.1, earlier.2) e :=
    List.forall_mem_map.mp hpassed
  obtain ⟨r, e, rfl, hanswer, habsent, hgiven⟩ :=
    exists_answer_eq_error (hagrees (key, s) (by simp)) hbreaks
  have hbefore : ∀ field ∈ before, ∃ w, answer field = .ok w := fun field hfield =>
    exists_answer_eq_ok (hagrees field (by simp [hfield])) (hpassed field hfield)
  obtain ⟨others, hothers⟩ := @RecordAnswer.ofResults_of_first _ before after (key, s)
    (fun field => (RecordField.of field).declaration) answer e hbefore hanswer
  rw [hothers, RecordField.key_declaration]
  refine .rejected others rfl hpassed hbreaks habsent fun hget => ?_
  rw [hgiven hget]
  exact ⟨rfl, rfl⟩

end Payloads

/-- An object schema has a record, and the two agree on every payload that does not lead to a fault
and does not hold undefined for an optional field. -/
theorem validate_agrees (hlib : lib.Lawful) {name : String} {s : Schema}
    (hs : s.fields? = some (Schema.named fields)) (htitle : lib.titles name)
    (hdistinct : (fields.map fun field => attributeName field.1).Nodup)
    (hadmits : ∀ field ∈ fields, lib.admits (attributeName field.1))
    (hundefined : ∀ field ∈ fields, field.2.tag = .optional →
      Entries.get? (.text field.1) payload ≠ some .undefined)
    (hanswers : ∀ field ∈ fields, ∀ v, Entries.get? (.text field.1) payload = some v →
      ¬ (field.2.parse setting v { name := .text field.1 }).Faults) :
    ∃ model made, ofSchema name s = .ok model ∧
      lib.create model.name model.declarations = .ok made ∧
      Agrees setting payload fields (s.parse setting (.dict payload) .root)
        (lib.validate setting made (.dict payload)) := by
  have hnames : ((fields.map RecordField.of).map RecordField.name).Nodup := by
    rw [List.map_map]
    exact hdistinct
  obtain ⟨made, hmade, hfields⟩ := @exists_create lib hlib ⟨name, fields.map .of⟩ htitle hnames
    (List.forall_mem_map.mpr hadmits)
  have hkeys : (fields.map Prod.fst).Nodup := by
    apply List.Nodup.of_map attributeName
    rw [List.map_map]
    exact hdistinct
  -- reading is a function on the fields, as none of them leads to a fault
  have hread : ∀ field ∈ fields,
      ∃ result, lib.read setting payload (RecordField.of field).declaration = .ok result ∧
        FieldAgrees setting payload field result := fun field hfield =>
    read_agrees hlib (hundefined field hfield) (hanswers field hfield)
  choose! answer hread hagrees using hread
  refine ⟨_, made, ofSchema_named hs hdistinct, hmade, ?_⟩
  rw [declarations, List.map_map] at hfields
  rw [Schema.parse_eq_of_fields? hs, Schema.parse, hlib.validate_eq hfields hadmits hread]
  cases hparse : Schema.parseFields setting (Schema.named fields) payload .root with
  | ok out => exact agrees_of_parseFields_eq_ok hkeys hagrees hparse
  | error failure => exact agrees_of_parseFields_eq_error hagrees hparse

/-- The fields of a profile: one that is asked for, one that may be left out and whose key is no
identifier, and a checkbox. -/
def profile : List (String × Schema) :=
  [("name", .leaf (.string {}) none),
   ("first-name", .optional (.leaf (.string {}) none)),
   ("news", .leaf .checkbox none)]

/-- A profile as its form sends it. -/
def sentProfile : List (Value × Value) :=
  [(.text "first-name", .null), (.text "name", .text " Ada ")]

theorem attributeName_profile :
    profile.map (fun field => attributeName field.1) = ["name", "first_name", "news"] := by
  decide +kernel

theorem validate_agrees_profile :
    ∃ model made, ofSchema "Profile" (.object (Schema.named profile) none) = .ok model ∧
      BuiltIn.library.create model.name model.declarations = .ok made ∧
      BuiltIn.library.validate "en" made (.dict sentProfile) =
        .ok (.ok [("name", .text "Ada"), ("first_name", .null), ("news", .bool false)]) := by
  have hs : (Schema.object (Schema.named profile) none).fields? = some (Schema.named profile) := rfl
  have htitle : BuiltIn.Titles "Profile" := by decide
  have hdistinct : (profile.map fun field => attributeName field.1).Nodup := by
    rw [attributeName_profile]
    decide
  have hadmits : ∀ field ∈ profile, BuiltIn.Admits (attributeName field.1) := by
    have hall : ∀ name ∈ ["name", "first_name", "news"], BuiltIn.Admits name := by decide
    rw [← attributeName_profile, List.forall_mem_map] at hall
    exact hall
  have hundefined : ∀ field ∈ profile, field.2.tag = .optional →
      Entries.get? (.text field.1) sentProfile ≠ some .undefined := by
    intro field hfield _ hget
    obtain ⟨entry, hentry, hvalue⟩ := Entries.exists_mem_of_get? hget
    simp only [sentProfile, List.mem_cons, List.not_mem_nil, or_false] at hentry
    rcases hentry with rfl | rfl <;> cases hvalue
  have hanswers : ∀ field ∈ profile, ∀ v, Entries.get? (.text field.1) sentProfile = some v →
      ¬ (field.2.parse "en" v { name := .text field.1 }).Faults := by
    simp only [profile, List.forall_mem_cons]
    refine ⟨?_, ?_, ?_, by simp⟩
    · rintro _ ⟨⟩
      exact Outcome.not_faults_ok (Value.text "Ada")
    · rintro _ ⟨⟩
      exact Outcome.not_faults_rejected _
    · rintro _ ⟨⟩
  obtain ⟨model, made, hmodel, hmade, hagrees⟩ :=
    validate_agrees BuiltIn.lawful_library hs htitle hdistinct hadmits hundefined hanswers
  refine ⟨model, made, hmodel, hmade, ?_⟩
  have hparse : (Schema.object (Schema.named profile) none).parse "en" (.dict sentProfile) .root =
      .ok (.dict [(.text "name", .text "Ada"), (.text "news", .bool false)]) := rfl
  rw [hparse] at hagrees
  generalize BuiltIn.library.validate "en" made (.dict sentProfile) = result at hagrees ⊢
  cases hagrees
  have hnames := attributeName_profile
  simp only [profile, List.map_cons, List.map_nil, List.cons.injEq, and_true] at hnames ⊢
  obtain ⟨hname, hfirst, hnews⟩ := hnames
  rw [hname, hfirst, hnews]
  rfl

end RecordModel

end Intake
