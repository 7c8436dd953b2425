import Intake.Pattern.CharTest

/-!
# The structure of patterns

A pattern is a sequence of terms: characters, sets and anchors, alternatives, repetitions, groups
and what refers back to them, and conditions on what stands around a place.

## Main definitions

* `Term` — the structure.
* `Term.width`, `termsWidth` — how many characters a part of a pattern can match.
-/

namespace Intake.Pattern

/-- The places that an anchor asks for. -/
inductive Anchor where
  | textStart
  | lineStart
  | textEnd
  | lineEnd
  | wordEdge (negated : Bool)
deriving DecidableEq, Repr

/-- Which number of repetitions is tried first; a possessive repetition keeps the first that
fits. -/
inductive Greed where
  | greedy
  | lazy
  | possessive
deriving DecidableEq, Repr

/-- How often something is repeated; no largest number is none. -/
structure Bounds where
  least : Nat
  most : Option Nat
deriving DecidableEq, Repr

/-- Whether a repetition may go on after so many. -/
def Bounds.allowsAfter (bounds : Bounds) (count : Nat) : Bool :=
  bounds.most.all (count < ·)

/-- The fewest and the most characters that a part of a pattern can match. -/
structure Width where
  least : Nat
  most : Nat
deriving DecidableEq, Repr

/-- The number that stands for repetitions without end; nothing may be repeated that often. -/
def endless : Nat := 4294967295

/-- A part of a pattern. -/
inductive Term where
  | code (n : Nat) (negated : Bool)
  | any
  | set (chars : CharSet)
  | anchor (anchor : Anchor)
  | choice (alternatives : List (List Term))
  | repeated (bounds : Bounds) (greed : Greed) (body : List Term)
  | group (index : Nat) (body : List Term)
  | scoped (change : FlagChange) (body : List Term)
  | back (index : Nat) (width : Width)
  | conditional (index : Nat) (yes no : List Term)
  | atomic (body : List Term)
  | ahead (negated : Bool) (body : List Term)
  | behind (negated : Bool) (body : List Term)

namespace Term

/-- A code point that stands for itself. -/
def literal (n : Nat) : Term :=
  .code n false

/-- Whether two terms are the same, which is told of single characters, sets, anchors and
references only. -/
def same : Term → Term → Bool
  | .code m p, .code n q => m = n && p = q
  | .any, .any => true
  | .set a, .set b => a = b
  | .anchor a, .anchor b => a = b
  | .back i _, .back j _ => i = j
  | _, _ => false

end Term

/-! ## Widths -/

namespace Width

/-- The width of nothing. -/
def zero : Width := ⟨0, 0⟩

/-- The width of one character. -/
def one : Width := ⟨1, 1⟩

/-- The width of a part after another; widths beyond all repetitions are not told apart. -/
def append (a b : Width) : Width :=
  ⟨min (a.least + b.least) (endless - 1), min (a.most + b.most) endless⟩

/-- The width of one part or another. -/
def either (a b : Width) : Width :=
  ⟨min a.least b.least, max a.most b.most⟩

/-- The width of a part that is repeated. -/
def times (a : Width) (bounds : Bounds) : Width :=
  ⟨a.least * bounds.least, a.most * bounds.most.getD endless⟩

end Width

mutual

/-- The width of a term. -/
def Term.width : Term → Width
  | .code .. | .any | .set _ => .one
  | .anchor _ | .ahead .. | .behind .. => .zero
  | .choice alternatives => choiceWidth alternatives
  | .repeated bounds _ body => (termsWidth body).times bounds
  | .group _ body | .scoped _ body | .atomic body => termsWidth body
  | .back _ width => width
  | .conditional _ yes no => (termsWidth yes).either (termsWidth no)

/-- The width of a sequence. -/
def termsWidth : List Term → Width
  | [] => .zero
  | term :: terms => term.width.append (termsWidth terms)

/-- The width of alternatives. -/
def choiceWidth : List (List Term) → Width
  | [] => ⟨endless - 1, 0⟩
  | terms :: alternatives => (termsWidth terms).either (choiceWidth alternatives)

end

end Intake.Pattern
