import Intake.Pattern.Node
import Intake.Pattern.Reading

/-!
# Patterns

A pattern is read from a text in some modes, and the text may set more of them.

## Main definitions

* `Pattern` — a pattern with the text it was read from.
* `Pattern.compile` — the pattern that a text writes.
* `Pattern.same` — whether two patterns are the same.
-/

namespace Intake

/-- A pattern with the text it was read from, the modes it is matched in, and the fewest characters
that it matches. -/
structure Pattern where
  source : String
  flags : Pattern.Flags
  least : Nat
  body : Pattern.Node

namespace Pattern

/-- The pattern that a text writes; its letters may be asked to match in either case. -/
def compile (source : String) (ignoreCase : Bool) : Except Defect Pattern := do
  let (terms, flags) ← readTerms source.toList { ignoreCase }
  let body ← Node.ofPattern flags terms
  return ⟨source, flags, (termsWidth terms).least, body⟩

/-- Whether two patterns are the same, which their texts and their modes decide. -/
def same (a b : Pattern) : Bool :=
  a.source = b.source && a.flags = b.flags

end Pattern

end Intake
