import Intake.RecordLibrary.BuiltIn
import Intake.Proofs.Outcome

/-!
# Libraries of record models and their laws

What a lawful library answers for a payload depends on the fields of the model alone: it reads one
after the other, and all that they come to is in the answer.  The library at hand is lawful, for it
admits no name that it has a use for itself.

## Main statements

* `RecordAnswer.ofResults_of_forall`, `RecordAnswer.ofResults_of_first` — answers from results.
* `RecordLibrary.Lawful.validate_eq` — the answer where no field ends it.
* `RecordLibrary.Lawful.exists_read` — the result of a field is in the answer.
* `RecordLibrary.Lawful.validate_congr` — only the keys of the fields count.
* `BuiltIn.lawful_library` — the laws of the library at hand.
-/

namespace Intake

open Outcome (bind_eq_ok)

variable {α : Type} {as before after : List α} {a : α} {declaration : α → FieldDeclaration}
  {answer : α → Except FieldError Value}

/-! ## Answers -/

namespace RecordAnswer

variable {results : List (FieldDeclaration × Except FieldError Value)} {field : FieldDeclaration}
  {e : FieldError}

/-- The attribute of a field is in the answer. -/
theorem mem_of_ofResults_eq_ok {attributes : List (String × Value)} {w : Value}
    (h : ofResults results = .ok attributes) (hfield : (field, .ok w) ∈ results) :
    (field.name, w) ∈ attributes := by
  unfold ofResults at h
  split at h
  · cases h
    exact List.mem_filterMap.mpr ⟨_, hfield, rfl⟩
  · cases h

/-- What is wrong with a field is in the answer. -/
theorem exists_ofResults_eq_error (hfield : (field, .error e) ∈ results) :
    ∃ errors, ofResults results = .error errors ∧ (some field.key, e) ∈ errors := by
  have hmem : (some field.key, e) ∈ errors results := List.mem_filterMap.mpr ⟨_, hfield, rfl⟩
  have hsome : (errors results).isEmpty = false :=
    List.isEmpty_eq_false_iff.mpr (List.ne_nil_of_mem hmem)
  exact ⟨_, if_neg (Bool.eq_false_iff.mp hsome), hmem⟩

theorem errors_of_forall (h : ∀ a ∈ as, ∃ w, answer a = .ok w) :
    errors (as.map fun a => (declaration a, answer a)) = [] := by
  rw [errors, List.filterMap_eq_nil_iff, List.forall_mem_map]
  intro a ha
  obtain ⟨w, hw⟩ := h a ha
  simp only [hw]

/-- If nothing is wrong with any field, the answer is their attributes. -/
theorem ofResults_of_forall {value : α → Value} (h : ∀ a ∈ as, answer a = .ok (value a)) :
    ofResults (as.map fun a => (declaration a, answer a)) =
      .ok (as.map fun a => ((declaration a).name, value a)) := by
  have hattributes : attributes (as.map fun a => (declaration a, answer a)) =
      as.map fun a => ((declaration a).name, value a) := by
    rw [attributes, List.filterMap_map, ← List.filterMap_eq_map]
    apply List.filterMap_congr
    intro a ha
    simp only [Function.comp_apply, h a ha]
  rw [ofResults, errors_of_forall fun a ha => ⟨_, h a ha⟩, hattributes]
  rfl

/-- The first error is that of the first field with which something is wrong. -/
theorem ofResults_of_first (hbefore : ∀ a ∈ before, ∃ w, answer a = .ok w)
    (ha : answer a = .error e) :
    ∃ others, ofResults ((before ++ a :: after).map fun a => (declaration a, answer a)) =
      .error ((some (declaration a).key, e) :: others) := by
  have herrors : errors ((before ++ a :: after).map fun a => (declaration a, answer a)) =
      (some (declaration a).key, e) ::
        errors (after.map fun a => (declaration a, answer a)) := by
    have hnone := @errors_of_forall _ before declaration answer hbefore
    rw [errors] at hnone ⊢
    simp only [List.map_append, List.map_cons, List.filterMap_append, List.filterMap_cons, hnone,
      ha, List.nil_append]
    rfl
  exact ⟨_, by rw [ofResults, herrors]; rfl⟩

end RecordAnswer

/-! ## Lawful libraries -/

namespace RecordLibrary

variable {lib : RecordLibrary} {setting : Setting} {made : lib.Model}
  {payload payload' : List (Value × Value)}

/-- The answer for a payload of which all fields can be read. -/
theorem Lawful.validate_eq (hlib : lib.Lawful) (hfields : lib.fields made = as.map declaration)
    (hadmits : ∀ a ∈ as, lib.admits (declaration a).name)
    (hread : ∀ a ∈ as, lib.read setting payload (declaration a) = .ok (answer a)) :
    lib.validate setting made (.dict payload) =
      .ok (.ofResults (as.map fun a => (declaration a, answer a))) := by
  have hresults : ((as.map declaration).mapM fun field => do
      return (field, ← lib.read setting payload field)) =
        .ok (as.map fun a => (declaration a, answer a)) := by
    rw [Outcome.mapM_eq_ok_iff, List.forall₂_map_left_iff, List.forall₂_map_right_iff,
      List.forall₂_same]
    intro a ha
    rw [hread a ha]
    rfl
  have hall : ∀ field ∈ lib.fields made, lib.admits field.name := by
    rw [hfields, List.forall_mem_map]
    exact hadmits
  rw [hlib.answers_in_order setting made payload hall, hfields, hresults]
  rfl

/-- Every field is read, and what it comes to is in the answer. -/
theorem Lawful.exists_read (hlib : lib.Lawful) {answer : RecordAnswer} {field : FieldDeclaration}
    (hadmits : ∀ field ∈ lib.fields made, lib.admits field.name)
    (hfield : field ∈ lib.fields made)
    (h : lib.validate setting made (.dict payload) = .ok answer) :
    ∃ result, lib.read setting payload field = .ok result ∧
      (∀ w attributes, result = .ok w → answer = .ok attributes → (field.name, w) ∈ attributes) ∧
      ∀ e, result = .error e → ∃ errors, answer = .error errors ∧ (some field.key, e) ∈ errors := by
  rw [hlib.answers_in_order setting made payload hadmits] at h
  obtain ⟨results, hresults, h⟩ := bind_eq_ok.mp h
  obtain ⟨pair, hpair, hread⟩ :=
    Outcome.exists_mem_of_forall₂ (Outcome.mapM_eq_ok_iff.mp hresults) hfield
  obtain ⟨result, hresult, hread⟩ := bind_eq_ok.mp hread
  cases hread
  cases h
  refine ⟨result, hresult, ?_, ?_⟩
  · rintro w attributes rfl hattributes
    exact RecordAnswer.mem_of_ofResults_eq_ok hattributes hpair
  · rintro e rfl
    exact RecordAnswer.exists_ofResults_eq_error hpair

/-- The answer is the same for payloads that have the same under the keys of the fields. -/
theorem Lawful.validate_congr (hlib : lib.Lawful)
    (hadmits : ∀ field ∈ lib.fields made, lib.admits field.name)
    (h : ∀ field ∈ lib.fields made,
      Entries.get? (.text field.key) payload = Entries.get? (.text field.key) payload') :
    lib.validate setting made (.dict payload) = lib.validate setting made (.dict payload') := by
  have hresults : ((lib.fields made).mapM fun field => do
      return (field, ← lib.read setting payload field)) =
        (lib.fields made).mapM fun field => do return (field, ← lib.read setting payload' field) :=
    Outcome.mapM_congr fun field hfield => by
      rw [hlib.reads_by_key setting payload payload' field (h field hfield)]
  rw [hlib.answers_in_order setting made payload hadmits,
    hlib.answers_in_order setting made payload' hadmits, hresults]

end RecordLibrary

/-! ## The library at hand -/

namespace BuiltIn

variable {name : String} {declarations : List FieldDeclaration}

theorem Admits.ne {reserved : String} (h : Admits name)
    (hreserved : "model_".toList <+: reserved.toList) : name ≠ reserved := by
  rintro rfl
  exact h hreserved

theorem Admits.notMem_reservedNames (h : Admits name) : name ∉ reservedNames := by
  have hall : ∀ reserved ∈ reservedNames, "model_".toList <+: reserved.toList := by decide
  intro hmem
  exact h (hall name hmem)

/-- A model has the fields that are declared for it. -/
theorem create_eq (htitle : Titles name) (h : ∀ field ∈ declarations, Admits field.name) :
    create name declarations = .ok ⟨name, declarations⟩ := by
  have hsettings : ∀ field ∈ declarations, field.name ≠ settingsName := fun field hfield =>
    (h field hfield).ne (by decide)
  have hnone : field? declarations settingsName = none := by
    rw [field?, List.find?_eq_none]
    simpa using hsettings
  have hkept : (declarations.filter fun field => field.name ≠ settingsName) = declarations := by
    rw [List.filter_eq_self]
    simpa using hsettings
  have hfree : (declarations.find? fun field => reservedNames.contains field.name) = none := by
    rw [List.find?_eq_none]
    simpa using fun field hfield => (h field hfield).notMem_reservedNames
  rw [create, checkSettings, hnone, hkept, if_pos htitle]
  simp only [Outcome.ok_bind, Outcome.pure_eq_ok, hfree]

/-- No attribute is called when a record is finished. -/
theorem finish_ofResults {results : List (FieldDeclaration × Except FieldError Value)}
    (h : ∀ result ∈ results, Admits result.1.name) :
    finish (.ofResults results) = .ok (.ofResults results) := by
  have hfinisher : (RecordAnswer.attributes results).lookup finisherName = none := by
    rw [List.lookup_eq_none_iff, RecordAnswer.attributes]
    intro entry hentry
    obtain ⟨result, hresult, hsome⟩ := List.mem_filterMap.mp hentry
    split at hsome
    · cases hsome
      simpa using ((h result hresult).ne (by decide : "model_".toList <+: finisherName.toList)).symm
    · cases hsome
  rw [RecordAnswer.ofResults]
  split
  · rw [finish, hfinisher]
  · rfl

theorem validate_dict {setting : Setting} {model : Model} {payload : List (Value × Value)}
    (h : ∀ field ∈ model.fields, Admits field.name) :
    validate setting model (.dict payload) = do
      let results ← model.fields.mapM fun field => do
        return (field, ← read setting payload field)
      return .ofResults results := by
  rw [validate]
  cases hresults : model.fields.mapM fun field => do
    return (field, ← read setting payload field) with
  | error fault => rfl
  | ok results =>
    refine finish_ofResults fun result hresult => ?_
    obtain ⟨field, hfield, hread⟩ := Outcome.exists_of_mem_mapM hresults hresult
    obtain ⟨_, -, hread⟩ := bind_eq_ok.mp hread
    cases hread
    exact h field hfield

/-- The library at hand keeps the laws. -/
theorem lawful_library : library.Lawful where
  creates name declarations htitle _ h := ⟨_, create_eq htitle h, rfl⟩
  reads_by_key setting payload payload' field h := by
    simp only [library, read, h]
  converts setting payload field v w hget hconvert := by
    simp only [library, read, hget, hconvert]
  reports setting payload field v e message hget hconvert hmessage := by
    cases e with
    | rejected r =>
      cases hmessage
      simp only [library, read, hget, hconvert]
    | faulted fault =>
      simp only [Failure.complaint?] at hmessage
      split at hmessage
      · cases hmessage
        simp only [library, read, hget, hconvert]
        exact if_pos ‹_›
      · cases hmessage
  defaults setting payload field v hget hdefault := by
    simp only [library, read, hget, hdefault]
  requires setting payload field hget hdefault :=
    ⟨⟨"missing", "Field required"⟩, by simp only [library, read, hget, hdefault], rfl⟩
  answers_in_order setting model payload h := validate_dict h

end BuiltIn

end Intake
