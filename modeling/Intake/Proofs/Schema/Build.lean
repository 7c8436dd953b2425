import Intake.Schema.Build
import Intake.Proofs.Value.Entries
import Intake.Proofs.Value.Json

/-!
# Schemas as they are put together

What is told to be wrong when a schema is put together need not be feared later: its fixed values
can be written, the fields of an object have keys of their own, and a union has a candidate.

## Main statements

* `Schema.json_of_ofLiteral`, `Schema.json_of_ofMembers` — fixed values that can be written.
* `Schema.distinct_of_ofFields` — keys of their own.
* `Schema.ne_nil_of_unionOf` — a candidate at least.
-/

namespace Intake.Schema

open Outcome (bind_eq_ok check_bind_eq_ok map_eq_ok)

variable {s : Schema} {samples : Keywords} {options : Option SampleOptions}

/-- The one value of a literal can be written. -/
theorem json_of_ofLiteral {value : Value} (h : ofLiteral value = .ok s) :
    s = .leaf (.literal value) none ∧ ∃ text, value.json = .ok text := by
  obtain ⟨text, htext, h⟩ := bind_eq_ok.mp h
  cases h
  exact ⟨rfl, text, htext⟩

/-- The members of an enumeration can be written. -/
theorem json_of_ofMembers {members : List Value} (h : ofMembers members samples = .ok s) :
    ∃ nonempty options, s = .leaf (.values members nonempty) options ∧
      ∃ text, (Value.list members).json = .ok text := by
  rw [ofMembers] at h
  split at h
  · cases h
  · rename_i nonempty
    obtain ⟨type, htype, h⟩ := bind_eq_ok.mp h
    obtain ⟨texts, htexts, -⟩ := bind_eq_ok.mp htype
    obtain ⟨options, -, rfl⟩ := map_eq_ok.mp h
    exact ⟨nonempty, options, rfl, Value.exists_json_list_iff.mpr ⟨texts, htexts⟩⟩

/-- The fields of an object have keys of their own. -/
theorem distinct_of_ofFields {fields kept : List (Value × Schema)}
    (h : ofFields fields samples = .ok (.object kept options)) : Entries.Distinct kept := by
  have hkept : Entries.ofList fields = kept := by
    rw [ofFields] at h
    dsimp only at h
    split at h
    · cases h
    · split at h
      · obtain ⟨-, h⟩ := check_bind_eq_ok.mp h
        obtain ⟨samples, -, h⟩ := bind_eq_ok.mp h
        cases h
        rfl
      · obtain ⟨samples, -, h⟩ := bind_eq_ok.mp h
        cases h
        rfl
  rw [← hkept]
  exact Entries.distinct_ofList fields

/-- A union has a candidate. -/
theorem ne_nil_of_unionOf {candidates : List Schema} (h : unionOf candidates samples = .ok s) :
    s = .union candidates (s.samples) ∧ candidates ≠ [] := by
  cases candidates with
  | nil => cases h
  | cons first candidates =>
    obtain ⟨-, h⟩ := check_bind_eq_ok.mp h
    obtain ⟨options, -, rfl⟩ := map_eq_ok.mp h
    exact ⟨rfl, List.cons_ne_nil _ _⟩

end Intake.Schema
