import Intake.Schema.Signature

/-!
# Schemas put together

A schema is put together from its parts and what the user says about samples.  Whatever can be
told to be wrong then is a fault at once: a malformed pattern, an empty enumeration or union, an
unknown precision, unknown sample options, a type that cannot be written, a part without samples.

## Main definitions

* `Schema.ofLeaf`, `Schema.ofLiteral`, `Schema.ofMembers`, `Schema.ofValues` — schemas of single
  values.
* `Schema.ofFields`, `Schema.arrayOf`, `Schema.singleOf`, `Schema.nullableOf`, `Schema.optionalOf`,
  `Schema.unionOf`, `Schema.dictOf` — schemas of other schemas.
-/

namespace Intake

namespace Schema

/-! ## Single values -/

/-- The schema of a leaf. -/
def ofLeaf (leaf : Leaf) (samples : Keywords) : Except Fault Schema :=
  Schema.leaf leaf <$> SampleOptions.ofFields samples

/-- The schema of one literal value, whose JSON text is its type. -/
def ofLiteral (value : Value) : Except Fault Schema := do
  let _ ← value.json
  return .leaf (.literal value) none

/-- The schema of an enumeration of given members, of which there has to be one at least. -/
def ofMembers (members : List Value) (samples : Keywords) : Except Fault Schema :=
  if h : members = [] then .error .noMembers
  else do
    let _ ← Leaf.alternativesText members
    ofLeaf (.values members h) samples

/-- The schema of an enumeration of the members of a value. -/
def ofValues (listed : Value) (samples : Keywords) : Except Fault Schema := do
  ofMembers (← listed.listed) samples

/-! ## Schemas of schemas -/

/-- The schema of an object with the given fields; of two fields with the same key the later one
counts.  Unless the user says something about samples, every field has to have some. -/
def ofFields (fields : List (Value × Schema)) (samples : Keywords) : Except Fault Schema := do
  if let some entry := fields.find? fun entry => !entry.1.isHashable then
    throw (.unhashable entry.1.className)
  let fields := Entries.ofList fields
  if samples.isEmpty then
    fields.forM fun entry => entry.2.require
  return .object fields (← SampleOptions.ofFields samples)

/-- The schema of an array. -/
def arrayOf (item : Schema) (rule : ArrayRule) (samples : Keywords) : Except Fault Schema := do
  let _ ← item.typeText
  item.require
  Schema.array item rule <$> SampleOptions.ofFields samples

/-- The schema of an array of one item. -/
def singleOf (item : Schema) : Except Fault Schema := do
  let _ ← item.typeText
  item.require
  return .single item

/-- The schema of a value that may also be null. -/
def nullableOf (inner : Schema) (samples : Keywords) : Except Fault Schema := do
  let _ ← inner.typeText
  Schema.nullable inner <$> SampleOptions.ofFields samples

/-- The schema of a value that an object may leave out. -/
def optionalOf (inner : Schema) : Except Fault Schema :=
  match inner with
  | .plain v => .error (.notASchema v.className)
  | inner => .ok (.optional inner)

/-- The schema of a union, which has a candidate at least.  Its sample is that of the first. -/
def unionOf (candidates : List Schema) (samples : Keywords) : Except Fault Schema :=
  match candidates with
  | [] => .error .noCandidates
  | first :: _ => do
    first.require
    Schema.union candidates <$> SampleOptions.ofFields samples

/-- The schema of a dictionary, whose keys are text by default.  The sample of the keys has to be
one that a dictionary can have as a key. -/
def dictOf (key : Option Schema) (value : Schema) (samples : Keywords) : Except Fault Schema := do
  let key := key.getD (.leaf (.string {}) none)
  key.require
  value.require
  let _ ← singleEntry key.sampleValue value.sampleValue
  Schema.dict key value <$> SampleOptions.ofFields samples

end Schema

end Intake
