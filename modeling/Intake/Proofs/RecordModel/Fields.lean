import Intake.Proofs.RecordModel
import Intake.Proofs.Value.Merging

/-!
# The fields that a record keeps

Keys that are no identifiers are rewritten to the names of attributes, and different keys may come
to the same name.  Then the last of these fields takes the attribute, and the record knows nothing
of the others, whichever library makes it.  So a record has a field for each key of its object just
if the attributes are distinct.

## Main definitions

* `RecordField.LastIn` — a field comes last among those with its attribute.
* `RecordModel.Keeps` — a field of an object that its record keeps.
* `RecordLibrary.Checks`, `RecordLibrary.Ignores` — what a record does about a field, and about a
  key that it does not know.

## Main statements

* `mem_placeAll` — the last field takes an attribute.
* `RecordModel.keeps_iff` — the fields that a record keeps, and what it does about them.
-/

namespace Intake

open Outcome (bind_eq_ok)

/-! ## Fields with one attribute -/

/-- A field comes last among those with its attribute. -/
def RecordField.LastIn (fields : List RecordField) (field : RecordField) : Prop :=
  ∃ before after, fields = before ++ field :: after ∧ ∀ later ∈ after, later.name ≠ field.name

/-- Puts fields in their places, one after the other. -/
def placeAll (fields : List RecordField) : List RecordField :=
  fields.foldl (fun placed field => putField field placed) []

section Places

variable {field other : RecordField} {fields placed : List RecordField}

theorem RecordField.LastIn.mem (h : field.LastIn fields) : field ∈ fields := by
  obtain ⟨before, after, rfl, -⟩ := h
  simp

theorem RecordField.lastIn_concat : field.LastIn (fields ++ [other]) ↔
    field = other ∨ field.LastIn fields ∧ field.name ≠ other.name := by
  constructor
  · rintro ⟨before, after, hsplit, hlater⟩
    rcases List.eq_nil_or_concat after with rfl | ⟨after, last, rfl⟩
    · exact .inl (List.append_singleton_inj.mp hsplit).2.symm
    · rw [List.concat_eq_append, ← List.cons_append, ← List.append_assoc] at hsplit
      obtain ⟨hfields, rfl⟩ := List.append_singleton_inj.mp hsplit
      simp only [List.concat_eq_append, List.forall_mem_append, List.forall_mem_singleton] at hlater
      exact .inr ⟨⟨before, after, hfields, hlater.1⟩, hlater.2.symm⟩
  · rintro (rfl | ⟨⟨before, after, rfl, hlater⟩, hne⟩)
    · exact ⟨fields, [], rfl, by simp⟩
    · refine ⟨before, after ++ [other], by simp, ?_⟩
      rw [List.forall_mem_append, List.forall_mem_singleton]
      exact ⟨hlater, hne.symm⟩

/-- The attributes stay where they are, and a new one goes to the end. -/
theorem map_name_putField : (putField field placed).map RecordField.name =
    if field.name ∈ placed.map RecordField.name then placed.map RecordField.name
    else placed.map RecordField.name ++ [field.name] := by
  induction placed with
  | nil => rfl
  | cons other placed ih =>
    by_cases h : other.name = field.name
    · simp [putField, h]
    · have h' : field.name ≠ other.name := Ne.symm h
      simp only [putField, if_neg h, List.map_cons, ih, List.mem_cons, h', false_or]
      split <;> rfl

theorem nodup_putField (h : (placed.map RecordField.name).Nodup) :
    ((putField field placed).map RecordField.name).Nodup := by
  rw [map_name_putField]
  split
  · exact h
  · rename_i hnew
    exact List.concat_eq_append ▸ h.concat hnew

/-- A field drives out the one with its attribute, and no other. -/
theorem mem_putField (h : (placed.map RecordField.name).Nodup) : other ∈ putField field placed ↔
    other = field ∨ other ∈ placed ∧ other.name ≠ field.name := by
  induction placed with
  | nil => simp [putField]
  | cons first placed ih =>
    obtain ⟨hfirst, h⟩ := List.nodup_cons.mp h
    by_cases hname : first.name = field.name
    · -- attributes are distinct, so that the field drives out no other one further on
      have hrest : ∀ later ∈ placed, later.name ≠ field.name := fun later hlater heq =>
        hfirst (List.mem_map.mpr ⟨later, hlater, heq.trans hname.symm⟩)
      rw [putField, if_pos hname]
      constructor
      · intro hmem
        rcases List.mem_cons.mp hmem with rfl | hmem
        · exact .inl rfl
        · exact .inr ⟨List.mem_cons_of_mem _ hmem, hrest other hmem⟩
      · rintro (rfl | ⟨hmem, hne⟩)
        · exact List.mem_cons_self
        · rcases List.mem_cons.mp hmem with rfl | hmem
          · exact absurd hname hne
          · exact List.mem_cons_of_mem _ hmem
    · rw [putField, if_neg hname, List.mem_cons, ih h, List.mem_cons]
      constructor
      · rintro (rfl | rfl | ⟨hmem, hne⟩)
        · exact .inr ⟨.inl rfl, hname⟩
        · exact .inl rfl
        · exact .inr ⟨.inr hmem, hne⟩
      · rintro (rfl | ⟨rfl | hmem, hne⟩)
        · exact .inr (.inl rfl)
        · exact .inl rfl
        · exact .inr (.inr ⟨hmem, hne⟩)

theorem placeAll_concat : placeAll (fields ++ [field]) = putField field (placeAll fields) := by
  rw [placeAll, List.foldl_append, List.foldl_cons, List.foldl_nil, placeAll]

theorem nodup_placeAll (fields : List RecordField) :
    ((placeAll fields).map RecordField.name).Nodup := by
  induction fields using List.reverseRecOn with
  | nil => exact List.nodup_nil
  | append_singleton fields field ih =>
    rw [placeAll_concat]
    exact nodup_putField ih

/-- Of the fields with one attribute, the last takes it. -/
theorem mem_placeAll : field ∈ placeAll fields ↔ field.LastIn fields := by
  induction fields using List.reverseRecOn with
  | nil => simp [placeAll, RecordField.LastIn]
  | append_singleton fields other ih =>
    rw [placeAll_concat, mem_putField (nodup_placeAll fields), ih, RecordField.lastIn_concat]

end Places

/-! ## The fields of a record -/

namespace RecordModel

/-- A field of an object that its record keeps: it comes last among the fields with its
attribute. -/
def Keeps (fields : List (String × Schema)) (field : String × Schema) : Prop :=
  (RecordField.of field).LastIn (fields.map .of)

variable {lib : RecordLibrary} {made : lib.Model} {setting : Setting} {name : String} {s : Schema}
  {fields : List (String × Schema)} {field : String × Schema} {model : RecordModel}
  {place : FieldDeclaration}

theorem of_injective {first second : String × Schema}
    (h : RecordField.of first = RecordField.of second) : first = second :=
  Prod.ext (congrArg RecordField.key h) (congrArg RecordField.schema h)

theorem Keeps.mem (h : Keeps fields field) : field ∈ fields := by
  obtain ⟨other, hother, heq⟩ := List.mem_map.mp (RecordField.LastIn.mem h)
  exact of_injective heq ▸ hother

theorem mem_fields_iff (hs : s.fields? = some (Schema.named fields))
    (hmodel : ofSchema name s = .ok model) {placed : RecordField} :
    placed ∈ model.fields ↔ ∃ field, Keeps fields field ∧ placed = .of field := by
  rw [ofSchema_eq hs, ← placeAll] at hmodel
  cases hmodel
  rw [mem_placeAll]
  constructor
  · intro hlast
    obtain ⟨field, -, rfl⟩ := List.mem_map.mp hlast.mem
    exact ⟨field, hlast, rfl⟩
  · rintro ⟨field, hlast, rfl⟩
    exact hlast

/-- What a library is told of are the fields that the record keeps. -/
theorem mem_declarations_iff (hs : s.fields? = some (Schema.named fields))
    (hmodel : ofSchema name s = .ok model) :
    place ∈ model.declarations ↔
      ∃ field, Keeps fields field ∧ place = (RecordField.of field).declaration := by
  rw [declarations, List.mem_map]
  constructor
  · rintro ⟨placed, hplaced, rfl⟩
    obtain ⟨field, hkeeps, rfl⟩ := (mem_fields_iff hs hmodel).mp hplaced
    exact ⟨field, hkeeps, rfl⟩
  · rintro ⟨field, hkeeps, rfl⟩
    exact ⟨_, (mem_fields_iff hs hmodel).mpr ⟨field, hkeeps, rfl⟩, rfl⟩

/-- An object has a record, whatever attributes its keys come to, and a library makes it. -/
theorem exists_ofSchema_create (hlib : lib.Lawful) (hs : s.fields? = some (Schema.named fields))
    (htitle : lib.titles name) (hadmits : ∀ field ∈ fields, lib.admits (attributeName field.1)) :
    ∃ model made, ofSchema name s = .ok model ∧
      lib.create model.name model.declarations = .ok made ∧
      lib.fields made = model.declarations := by
  have hmodel := @ofSchema_eq fields name s hs
  obtain ⟨made, hmade, hfields⟩ := exists_create hlib htitle (nodup_placeAll (fields.map .of))
    fun placed hplaced => by
      obtain ⟨field, hkeeps, rfl⟩ := (mem_fields_iff hs hmodel).mp hplaced
      exact hadmits field hkeeps.mem
  exact ⟨_, made, hmodel, hmade, hfields⟩

/-- A record has one field for the key of a field that it keeps, and none for that of another. -/
theorem existsUnique_iff_keeps (hs : s.fields? = some (Schema.named fields))
    (hkeys : (fields.map Prod.fst).Nodup) (hmodel : ofSchema name s = .ok model)
    (hfield : field ∈ fields) :
    (∃! place, place ∈ model.declarations ∧ place.key = field.1) ↔ Keeps fields field := by
  have hsame : ∀ other, Keeps fields other → (RecordField.of other).declaration.key = field.1 →
      other = field := by
    intro other hother hkey
    rw [RecordField.key_declaration] at hkey
    exact List.inj_on_of_nodup_map hkeys hother.mem hfield hkey
  constructor
  · rintro ⟨place, ⟨hplace, hkey⟩, -⟩
    obtain ⟨other, hother, rfl⟩ := (mem_declarations_iff hs hmodel).mp hplace
    exact hsame other hother hkey ▸ hother
  · intro hkeeps
    have hplace := (mem_declarations_iff hs hmodel).mpr ⟨field, hkeeps, rfl⟩
    refine ⟨_, ⟨hplace, RecordField.key_declaration _⟩, ?_⟩
    rintro place ⟨hplace, hkey⟩
    obtain ⟨other, hother, rfl⟩ := (mem_declarations_iff hs hmodel).mp hplace
    rw [hsame other hother hkey]

/-- No field is lost just if all attributes are distinct. -/
theorem forall_keeps_iff (hkeys : (fields.map Prod.fst).Nodup) :
    (∀ field ∈ fields, Keeps fields field) ↔
      (fields.map fun field => attributeName field.1).Nodup := by
  constructor
  · intro hall
    rw [List.nodup_map_iff_inj_on hkeys.of_map]
    intro first hfirst second hsecond hsame
    -- both fields are left when all are put in their places, where attributes are distinct
    have hplaced : ∀ field ∈ fields, RecordField.of field ∈ placeAll (fields.map .of) :=
      fun field hfield => mem_placeAll.mpr (hall field hfield)
    exact of_injective (List.inj_on_of_nodup_map (nodup_placeAll (fields.map .of))
      (hplaced first hfirst) (hplaced second hsecond) hsame)
  · intro hdistinct field hfield
    obtain ⟨before, after, rfl⟩ := List.append_of_mem hfield
    refine ⟨before.map .of, after.map .of, by simp, ?_⟩
    rw [List.forall_mem_map]
    intro later hlater hsame
    rw [List.map_append, List.map_cons] at hdistinct
    have hnew := (List.nodup_cons.mp (List.nodup_append.mp hdistinct).2.1).1
    exact hnew (List.mem_map.mpr ⟨later, hlater, hsame⟩)

end RecordModel

/-! ## Payloads -/

namespace RecordLibrary

variable {lib : RecordLibrary} {made : lib.Model} {setting : Setting} {field : String × Schema}

/-- A record runs the schema of a field on what a payload has under its key, and asks for the field
if it is required. -/
structure Checks (lib : RecordLibrary) (made : lib.Model) (setting : Setting)
    (field : String × Schema) : Prop where
  accepts : ∀ payload attributes v w,
    lib.validate setting made (.dict payload) = .ok (.ok attributes) →
    Entries.get? (.text field.1) payload = some v →
    field.2.parse setting v { name := .text field.1 } = .ok w →
    (v = .null → field.2.tag ≠ .optional) → (attributeName field.1, w) ∈ attributes
  rejects : ∀ payload answer v r, lib.validate setting made (.dict payload) = .ok answer →
    Entries.get? (.text field.1) payload = some v →
    field.2.parse setting v { name := .text field.1 } = .error (.rejected r) →
    (v = .null → field.2.tag ≠ .optional) →
    ∃ errors, answer = .error errors ∧ (some field.1, .badValue r.message) ∈ errors
  requires : ∀ payload answer, lib.validate setting made (.dict payload) = .ok answer →
    Entries.get? (.text field.1) payload = none → field.2.tag = .none →
    ∃ errors e, answer = .error errors ∧ e.kind = "missing" ∧ (some field.1, e) ∈ errors

/-- A record makes the same of a payload whatever it has under a key, or if it has nothing there. -/
def Ignores (lib : RecordLibrary) (made : lib.Model) (setting : Setting) (key : String) : Prop :=
  ∀ (payload : Entries Value) (v : Value),
    lib.validate setting made (.dict (payload.put (.text key) v)) =
      lib.validate setting made (.dict payload)

theorem Lawful.ignores (hlib : lib.Lawful)
    (hadmits : ∀ place ∈ lib.fields made, lib.admits place.name) {key : String}
    (hkey : ∀ place ∈ lib.fields made, place.key ≠ key) : lib.Ignores made setting key := by
  intro payload v
  refine hlib.validate_congr hadmits fun place hplace => ?_
  rw [Entries.get?_put rfl, Value.sameKey_text, decide_eq_false (hkey place hplace).symm]
  rfl

theorem Lawful.checks (hlib : lib.Lawful)
    (hadmits : ∀ place ∈ lib.fields made, lib.admits place.name)
    (hplace : (RecordField.of field).declaration ∈ lib.fields made) :
    lib.Checks made setting field := by
  have hkey : (RecordField.of field).declaration.key = field.1 := RecordField.key_declaration _
  constructor
  · intro payload attributes v w hanswer hget hparse hnull
    obtain ⟨result, hresult, hvalue, -⟩ := hlib.exists_read hadmits hplace hanswer
    have hread := hlib.converts setting payload (RecordField.of field).declaration v w (hkey ▸ hget)
      ((RecordField.parse_of hnull).trans hparse)
    cases hread.symm.trans hresult
    exact hvalue w attributes rfl rfl
  · intro payload answer v r hanswer hget hparse hnull
    obtain ⟨result, hresult, -, herror⟩ := hlib.exists_read hadmits hplace hanswer
    have hread := hlib.reports setting payload (RecordField.of field).declaration v _ _
      (hkey ▸ hget) ((RecordField.parse_of hnull).trans hparse) rfl
    cases hread.symm.trans hresult
    exact hkey ▸ herror _ rfl
  · intro payload answer hanswer hget hrequired
    obtain ⟨result, hresult, -, herror⟩ := hlib.exists_read hadmits hplace hanswer
    have hdefault : (RecordField.of field).declaration.default? = none := by
      simp [RecordField.declaration, RecordField.default?, RecordField.of, hrequired]
    obtain ⟨e, hread, hmissing⟩ := hlib.requires setting payload _ (hkey ▸ hget) hdefault
    cases hread.symm.trans hresult
    obtain ⟨errors, hanswer, hmem⟩ := herror e rfl
    exact ⟨errors, e, hanswer, hmissing, hkey ▸ hmem⟩

end RecordLibrary

namespace RecordModel

variable {lib : RecordLibrary} {name : String} {s : Schema} {fields : List (String × Schema)}

/-- A record has exactly one field for each key of its object if and only if the keys come to
distinct attributes.  A field that is kept is checked in every payload, and what a payload has for a
field that is lost makes no difference. -/
theorem keeps_iff (hlib : lib.Lawful) (hs : s.fields? = some (Schema.named fields))
    (htitle : lib.titles name) (hkeys : (fields.map Prod.fst).Nodup)
    (hadmits : ∀ field ∈ fields, lib.admits (attributeName field.1)) (setting : Setting) :
    ∃ model made, ofSchema name s = .ok model ∧
      lib.create model.name model.declarations = .ok made ∧
      ((∀ field ∈ fields, ∃! place, place ∈ lib.fields made ∧ place.key = field.1) ↔
        (fields.map fun field => attributeName field.1).Nodup) ∧
      ∀ field ∈ fields,
        ((∃! place, place ∈ lib.fields made ∧ place.key = field.1) ↔ Keeps fields field) ∧
        (Keeps fields field → lib.Checks made setting field) ∧
        (¬ Keeps fields field → lib.Ignores made setting field.1) := by
  obtain ⟨model, made, hmodel, hmade, hfields⟩ := exists_ofSchema_create hlib hs htitle hadmits
  have hunique : ∀ field ∈ fields,
      (∃! place, place ∈ lib.fields made ∧ place.key = field.1) ↔ Keeps fields field :=
    fun field hfield => hfields ▸ existsUnique_iff_keeps hs hkeys hmodel hfield
  have hplaces : ∀ place ∈ lib.fields made,
      ∃ field, Keeps fields field ∧ place = (RecordField.of field).declaration := by
    intro place hplace
    rw [hfields] at hplace
    exact (mem_declarations_iff hs hmodel).mp hplace
  have hnames : ∀ place ∈ lib.fields made, lib.admits place.name := by
    intro place hplace
    obtain ⟨field, hkeeps, rfl⟩ := hplaces place hplace
    exact hadmits field hkeeps.mem
  refine ⟨model, made, hmodel, hmade, ?_, fun field hfield => ⟨hunique field hfield, fun h => ?_,
    fun hlost => ?_⟩⟩
  · rw [← forall_keeps_iff hkeys]
    exact forall₂_congr hunique
  · refine hlib.checks hnames ?_
    rw [hfields]
    exact (mem_declarations_iff hs hmodel).mpr ⟨field, h, rfl⟩
  · refine hlib.ignores hnames fun place hplace hkey => hlost ?_
    obtain ⟨other, hother, rfl⟩ := hplaces place hplace
    rw [RecordField.key_declaration] at hkey
    exact List.inj_on_of_nodup_map hkeys hother.mem hfield hkey ▸ hother

/-- The choices of a newsletter, whose keys differ in what no identifier can hold. -/
def choices : List (String × Schema) :=
  [("opt-in", .leaf (.boolean none) none), ("opt in", .leaf (.boolean none) none)]

/-- The choice that is left of them. -/
def optIn : String × Schema :=
  ("opt in", .leaf (.boolean none) none)

/-- A payload with the choice that is left. -/
def sentChoice : Entries Value :=
  [(.text "opt in", .bool true)]

theorem attributeName_choices :
    attributeName "opt-in" = "opt_in" ∧ attributeName "opt in" = "opt_in" := by
  decide +kernel

theorem admits_choices : ∀ field ∈ choices, BuiltIn.Admits (attributeName field.1) := by
  have hname : BuiltIn.Admits "opt_in" := by decide
  simp [choices, attributeName_choices, hname]

theorem placeAll_choices : placeAll (choices.map RecordField.of) = [optIn].map .of := by
  simp [placeAll, choices, optIn, RecordField.of, putField, attributeName_choices]

theorem keeps_choices_iff {field : String × Schema} : Keeps choices field ↔ field = optIn := by
  rw [Keeps, ← mem_placeAll, placeAll_choices, List.map_singleton, List.mem_singleton]
  exact ⟨of_injective, congrArg _⟩

theorem keeps_iff_choices :
    ∃ model made, ofSchema "Choices" (.object (Schema.named choices) none) = .ok model ∧
      BuiltIn.library.create model.name model.declarations = .ok made ∧
      BuiltIn.library.Checks made "en" optIn ∧ BuiltIn.library.Ignores made "en" "opt-in" := by
  have hs : (Schema.object (Schema.named choices) none).fields? = some (Schema.named choices) := rfl
  have htitle : BuiltIn.Titles "Choices" := by decide
  have hkeys : (choices.map Prod.fst).Nodup := by decide
  obtain ⟨model, made, hmodel, hmade, -, hall⟩ :=
    keeps_iff BuiltIn.lawful_library hs htitle hkeys admits_choices "en"
  obtain ⟨-, hchecks, -⟩ := hall optIn (by simp [choices, optIn])
  obtain ⟨-, -, hignores⟩ := hall ("opt-in", .leaf (.boolean none) none) (by simp [choices])
  refine ⟨model, made, hmodel, hmade, hchecks (keeps_choices_iff.mpr rfl), hignores ?_⟩
  rw [keeps_choices_iff]
  simp [optIn]

/-- A record may have no field for a key of its object, and not ask for what the object requires. -/
theorem exists_lost_field : ∃ (fields : List (String × Schema)) (model : RecordModel)
    (made : BuiltIn.Model) (field : String × Schema) (payload : Entries Value)
    (attributes : List (String × Value)),
    (fields.map Prod.fst).Nodup ∧
      (∀ field ∈ fields, BuiltIn.library.admits (attributeName field.1)) ∧
      ofSchema "Choices" (.object (Schema.named fields) none) = .ok model ∧
      BuiltIn.library.create model.name model.declarations = .ok made ∧
      field ∈ fields ∧ field.2.tag = .none ∧
      (∀ place ∈ BuiltIn.library.fields made, place.key ≠ field.1) ∧
      Entries.get? (.text field.1) payload = none ∧
      BuiltIn.library.validate "en" made (.dict payload) = .ok (.ok attributes) := by
  have hs : (Schema.object (Schema.named choices) none).fields? = some (Schema.named choices) := rfl
  have hmodel : ofSchema "Choices" (.object (Schema.named choices) none) =
      .ok ⟨"Choices", [optIn].map .of⟩ := by
    rw [ofSchema_eq hs, ← placeAll, placeAll_choices]
  have hadmits : ∀ placed ∈ [optIn].map RecordField.of, BuiltIn.Admits placed.name :=
    List.forall_mem_map.mpr fun field hfield =>
      admits_choices field (by simp [List.mem_singleton.mp hfield, choices, optIn])
  obtain ⟨made, hmade, hfields⟩ := @exists_create BuiltIn.library BuiltIn.lawful_library
    ⟨"Choices", [optIn].map .of⟩ (by decide : BuiltIn.Titles "Choices") (by simp)
    hadmits
  have hkey : (RecordField.of optIn).declaration.key = "opt in" := RecordField.key_declaration _
  have hget : Entries.get? (.text (RecordField.of optIn).declaration.key) sentChoice =
      some (.bool true) := by
    rw [hkey]
    rfl
  have hread : ∀ placed ∈ [optIn].map RecordField.of,
      BuiltIn.library.read "en" sentChoice placed.declaration = .ok (.ok (.bool true)) := by
    rw [List.forall_mem_map, List.forall_mem_singleton]
    exact BuiltIn.lawful_library.converts "en" _ _ _ _ hget rfl
  have hanswer := BuiltIn.lawful_library.validate_eq hfields hadmits hread
  rw [RecordAnswer.ofResults_of_forall fun _ _ => rfl] at hanswer
  refine ⟨choices, _, made, ("opt-in", .leaf (.boolean none) none), sentChoice, _, by decide,
    admits_choices, hmodel, hmade, by simp [choices], rfl, ?_, rfl, hanswer⟩
  rw [hfields]
  refine List.forall_mem_singleton.mpr ?_
  rw [hkey]
  decide

end RecordModel

end Intake
