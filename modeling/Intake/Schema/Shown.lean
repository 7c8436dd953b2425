import Intake.Schema.Signature

/-!
# Types told by random samples

A schema may show its type by a random sample: where it has no signature of its own and its sample
value is undefined.  Such a sample is drawn when the type is asked for, and kept for as long as
the type is.

## Main definitions

* `Schema.isShownByDraw` — whether a schema shows its type by a random sample.
* `Schema.redrawn` — a schema that shows its type by samples drawn anew.
-/

namespace Intake.Schema

open Calendar (Moment)

/-- Whether a signature gives way to the type of the samples. -/
def givesWay : Except Fault String → Bool
  | .ok type => type.isEmpty
  | .error (.withoutText _) | .error (.noSchema _) => true
  | .error _ => false

/-- Whether a schema shows its type by a random sample. -/
def isShownByDraw (s : Schema) : Bool :=
  match s.sampleValue with
  | .undefined => givesWay s.signature
  | _ => false

/-- The options about samples with the sample by which the type is told. -/
def keeping (v : Value) (samples : Option SampleOptions) : Option SampleOptions :=
  samples.map fun options => { options with shown := some v }

/-- A schema with the random sample by which it shows its type. -/
def showing (v : Value) : Schema → Schema
  | .object fields samples => .object fields (keeping v samples)
  | .union candidates samples => .union candidates (keeping v samples)
  | s => s

/-- A schema, whose parts are drawn anew, with the sample by which it shows its own type. -/
def redrawRoot (now : Moment) (s : Schema) : Gen Schema := do
  if s.isShownByDraw then return s.showing (← s.randomSample now) else return s

mutual

/-- A schema that shows its type by samples drawn anew.  The type of an array, of an array of one
item and of a nullable value is settled when they are put together, so nothing is drawn there. -/
def redrawn (now : Moment := Leaf.noon) : Schema → Gen Schema
  | .object fields samples => do
    redrawRoot now (.object (← redrawnFields now fields) samples)
  | .optional inner => do
    return .optional (← redrawn now inner)
  | .union candidates samples => do
    redrawRoot now (.union (← redrawnAll now candidates) samples)
  | .dict key value samples => do
    let key ← redrawn now key
    return .dict key (← redrawn now value) samples
  | s => return s

/-- The fields of an object, drawn anew up to the first key that has no characters. -/
def redrawnFields (now : Moment) : List (Value × Schema) → Gen (List (Value × Schema))
  | [] => return []
  | (key, schema) :: fields => do
    match key with
    | .text _ =>
      let schema ← redrawn now schema
      return (key, schema) :: (← redrawnFields now fields)
    | _ => return (key, schema) :: fields

/-- Schemas drawn anew. -/
def redrawnAll (now : Moment) : List Schema → Gen (List Schema)
  | [] => return []
  | schema :: schemas => do
    let schema ← redrawn now schema
    return schema :: (← redrawnAll now schemas)

end

end Intake.Schema
