import Intake.Schema.Basic

/-!
# The parts of a schema

What is asked of every node of a tree is said by a property of single nodes, which then holds of a
schema and, in the same way, of each of its parts.

## Main definitions

* `Schema.parts` — the schemas right below a node.
* `Schema.Every` — a property of all nodes of a tree.
-/

namespace Intake.Schema

/-- The schemas right below a node. -/
def parts : Schema → List Schema
  | .leaf .. | .custom _ | .plain _ => []
  | .object fields _ => fields.map (·.2)
  | .array item _ _ | .single item => [item]
  | .nullable inner _ | .optional inner => [inner]
  | .union candidates _ => candidates
  | .dict key value _ => [key, value]

/-- A property holds of a node and of all nodes below it. -/
inductive Every (P : Schema → Prop) : Schema → Prop
  | node {s : Schema} (here : P s) (below : ∀ part ∈ s.parts, Every P part) : Every P s

namespace Every

variable {P Q : Schema → Prop} {s part : Schema}

theorem here (h : s.Every P) : P s := by
  cases h
  assumption

theorem of_mem (h : s.Every P) (hpart : part ∈ s.parts) : part.Every P := by
  cases h with
  | node _ below => exact below part hpart

theorem imp (hpq : ∀ s, P s → Q s) (h : s.Every P) : s.Every Q := by
  induction h with
  | node here _ ih => exact .node (hpq _ here) ih

theorem and (hp : s.Every P) (hq : s.Every Q) : s.Every fun s => P s ∧ Q s := by
  induction hp with
  | node here _ ih => exact .node ⟨here, hq.here⟩ fun part hpart => ih part hpart (hq.of_mem hpart)

end Every

theorem every_iff {P : Schema → Prop} {s : Schema} :
    s.Every P ↔ P s ∧ ∀ part ∈ s.parts, part.Every P :=
  ⟨fun h => ⟨h.here, fun _ => h.of_mem⟩, fun h => .node h.1 h.2⟩

section Nodes

variable {P : Schema → Prop} {samples : Option SampleOptions} {item inner key value : Schema}

@[simp] theorem every_leaf {atom : Leaf} :
    (leaf atom samples).Every P ↔ P (.leaf atom samples) := by
  refine ⟨Every.here, fun h => .node h fun part hpart => ?_⟩
  cases hpart

@[simp] theorem every_object {fields : List (Value × Schema)} :
    (object fields samples).Every P ↔
      P (.object fields samples) ∧ ∀ field ∈ fields, field.2.Every P := by
  rw [every_iff, parts, List.forall_mem_map]

@[simp] theorem every_array {rule : ArrayRule} :
    (array item rule samples).Every P ↔ P (.array item rule samples) ∧ item.Every P := by
  rw [every_iff, parts, List.forall_mem_singleton]

@[simp] theorem every_nullable :
    (nullable inner samples).Every P ↔ P (.nullable inner samples) ∧ inner.Every P := by
  rw [every_iff, parts, List.forall_mem_singleton]

@[simp] theorem every_optional :
    (optional inner).Every P ↔ P (.optional inner) ∧ inner.Every P := by
  rw [every_iff, parts, List.forall_mem_singleton]

@[simp] theorem every_union {candidates : List Schema} :
    (union candidates samples).Every P ↔
      P (.union candidates samples) ∧ ∀ candidate ∈ candidates, candidate.Every P := by
  rw [every_iff, parts]

@[simp] theorem every_dict : (dict key value samples).Every P ↔
    P (.dict key value samples) ∧ key.Every P ∧ value.Every P := by
  rw [every_iff, parts, List.forall_mem_cons, List.forall_mem_singleton]

end Nodes

theorem mem_parts_of_mem_fields {fields : List (Value × Schema)} {samples : Option SampleOptions}
    {field : Value × Schema} (h : field ∈ fields) : field.2 ∈ (object fields samples).parts :=
  List.mem_map_of_mem h

/-! ## Trees as a whole -/

theorem sizeOf_lt_of_mem_parts {s part : Schema} (h : part ∈ s.parts) : sizeOf part < sizeOf s := by
  cases s with
  | leaf atom samples => cases h
  | custom rule => cases h
  | plain v => cases h
  | object fields samples =>
    obtain ⟨⟨key, value⟩, hfield, rfl⟩ := List.mem_map.mp h
    have := List.sizeOf_lt_of_mem hfield
    simp only [Prod.mk.sizeOf_spec] at this
    simp only [object.sizeOf_spec]
    omega
  | union candidates samples =>
    have := List.sizeOf_lt_of_mem (show part ∈ candidates from h)
    simp only [union.sizeOf_spec]
    omega
  | dict key value samples =>
    simp only [parts, List.mem_cons, List.not_mem_nil, or_false] at h
    rcases h with rfl | rfl <;> simp only [dict.sizeOf_spec] <;> omega
  | array item rule samples =>
    obtain rfl := List.mem_singleton.mp h
    simp only [array.sizeOf_spec]
    omega
  | single item =>
    obtain rfl := List.mem_singleton.mp h
    simp only [single.sizeOf_spec]
    omega
  | nullable inner samples =>
    obtain rfl := List.mem_singleton.mp h
    simp only [nullable.sizeOf_spec]
    omega
  | optional inner =>
    obtain rfl := List.mem_singleton.mp h
    simp only [optional.sizeOf_spec]
    omega

/-- What every single node has holds of all nodes of every tree. -/
theorem every_of_forall {P : Schema → Prop} (h : ∀ s, P s) (s : Schema) : s.Every P :=
  .node (h s) fun part _ => every_of_forall h part
termination_by sizeOf s
decreasing_by exact sizeOf_lt_of_mem_parts ‹_›

end Intake.Schema
