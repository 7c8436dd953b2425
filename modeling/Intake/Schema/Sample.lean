import Intake.Schema.Basic

/-!
# Samples of schemas

Every schema has a sample value, and random samples can be drawn from it.  What the user says
about samples goes before what is put together from the parts.  A plain value in the place of a
schema has no samples.

## Main definitions

* `Schema.sampleValue` — the sample value.
* `Schema.randomSample` — a random sample.
-/

namespace Intake.Schema

open Calendar (Moment)

mutual

/-- The sample value of a schema.  Where the user says anything about the samples of an object, the
samples of its fields do not count. -/
def sampleValue : Schema → Value
  | .leaf atom samples => resolveSample samples atom.sampleValue
  | .custom rule => rule.sample
  | .object fields none => .dict (fieldSamples fields)
  | .object _ (some options) => options.value.getD .null
  | .array item _ samples => resolveSample samples (.list [sampleValue item])
  | .single item => sampleValue item
  | .nullable _ samples => resolveSample samples .null
  | .optional inner => sampleValue inner
  | .union candidates samples => resolveSample samples (firstSample candidates)
  | .dict key value samples => resolveSample samples (.dict [(sampleValue key, sampleValue value)])
  | .plain _ => .undefined

/-- The sample values of the fields of an object. -/
def fieldSamples : List (Value × Schema) → List (Value × Value)
  | [] => []
  | (key, schema) :: fields => (key, sampleValue schema) :: fieldSamples fields

/-- The sample value of the first of some candidates. -/
def firstSample : List Schema → Value
  | [] => .undefined
  | schema :: _ => sampleValue schema

end

/-- The dictionary of a single entry, whose key has to be hashable. -/
def singleEntry (key value : Value) : Except Fault Value :=
  if key.isHashable then .ok (.dict [(key, value)]) else .error (.unhashable key.className)

mutual

/-- A random sample of a schema, drawn at the present moment. -/
def randomSample (now : Moment := Leaf.noon) : Schema → Gen Value
  | .leaf atom samples => resolveRandom samples (atom.randomSample now)
  | .custom rule => return rule.sample
  | .object fields samples => resolveRandom samples (.dict <$> randomFields now fields)
  | .array item _ samples => resolveRandom samples do
    return .list [← randomSample now item]
  | .single item => randomSample now item
  | .nullable inner samples => resolveRandom samples do
    if ← Gen.coin then return .null else randomSample now inner
  | .optional inner => randomSample now inner
  | .union candidates samples => resolveRandom samples do
    if candidates.isEmpty then throw .emptyChoice
    else randomAt now candidates (← Gen.below candidates.length)
  | .dict key value samples => resolveRandom samples do
    let k ← randomSample now key
    let v ← randomSample now value
    match singleEntry k v with
    | .ok sample => return sample
    | .error fault => throw fault
  | .plain v => throw (.noSchema v.className)

/-- Random samples of the fields of an object. -/
def randomFields (now : Moment) : List (Value × Schema) → Gen (List (Value × Value))
  | [] => return []
  | (key, schema) :: fields => do
    return (key, ← randomSample now schema) :: (← randomFields now fields)

/-- A random sample of the candidate at a position. -/
def randomAt (now : Moment) : List Schema → Nat → Gen Value
  | [], _ => throw .emptyChoice
  | schema :: _, 0 => randomSample now schema
  | _ :: schemas, n + 1 => randomAt now schemas n

end

end Intake.Schema
