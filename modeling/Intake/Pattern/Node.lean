import Intake.Numeric.Rounding
import Intake.Pattern.Term
import Intake.Pattern.Defect

/-!
# Patterns ready to be matched

The terms of a pattern are put into a form in which every part holds all that its match depends on:
the modes in force, whether the part stands in a loop, and the test of a character that has to come
next, if one character decides whether to go on.

## Main definitions

* `Node` — a part of a pattern.
* `Node.ofTerm`, `Node.ofTerms` — the parts that terms stand for.
* `farthestBack` — how far the conditions on what stands before look back.
-/

namespace Intake.Pattern

/-- A part of a pattern.  What a choice or a condition leaves of the groups when it fails depends on
whether it stands in a loop. -/
inductive Node where
  | empty
  | never
  | unit (test : CharTest)
  | anchor (anchor : Anchor) (flags : Flags)
  | mark (index : Nat)
  | seq (first second : Node)
  | either (gate : Option CharTest) (inLoop : Bool) (first second : Node)
  | units (test : CharTest) (bounds : Bounds) (greed : Greed) (gate : Option CharTest)
      (inLoop : Bool)
  | loop (bounds : Bounds) (greed : Greed) (inLoop : Bool) (body : Node)
  | back (index : Nat) (rule : CaseRule)
  | conditional (index : Nat) (yes no : Node)
  | atomic (body : Node)
  | look (width : Nat) (negated inLoop : Bool) (body : Node)

/-- A part of a pattern with the test that it begins with, if it begins with one. -/
structure Opened where
  node : Node
  first : Option CharTest := none

namespace Opened

/-- A part that begins with nothing that could be tested. -/
def closed (node : Node) : Opened := ⟨node, none⟩

/-- The test of a part that may stand first in an alternative. -/
def gate (opened : Opened) : Option CharTest :=
  opened.first.filter (·.isPlain)

/-- The test of a part that may follow a repetition. -/
def codeGate (opened : Opened) : Option CharTest :=
  opened.first.filter (·.isPlainCode)

end Opened

/-- The test of the only character of a term, and of what a group without a number holds. -/
def unitTest? (flags : Flags) : Term → Option CharTest
  | .code n negated => some (.code n negated flags.caseRule)
  | .any => some (if flags.dotAll then .any else .inLine)
  | .set chars => some (.set chars flags.ascii flags.caseRule)
  | .scoped change [term] => unitTest? (change.apply flags) term
  | _ => none

/-- The places of the marks at the ends of a group. -/
def startMark (index : Nat) : Nat := 2 * (index - 1)

/-- The place of the mark at the end of a group. -/
def endMark (index : Nat) : Nat := startMark index + 1

mutual

/-- The part that a term stands for; `next` is what follows it. -/
def Node.ofTerm (flags : Flags) (inLoop : Bool) (next : Opened) : Term → Except Defect Opened
  | .code n negated => .ok (test (.code n negated flags.caseRule))
  | .any => .ok (test (if flags.dotAll then .any else .inLine))
  | .set chars => .ok (test (.set chars flags.ascii flags.caseRule))
  | .anchor place => .ok (.closed (.anchor place flags))
  | .choice alternatives => Opened.closed <$> Node.ofChoice flags inLoop alternatives
  | .repeated bounds greed body =>
    if flags.template then .error .malformed
    else
      match body.head?.bind (unitTest? flags), body.length with
      | some test, 1 => .ok (.closed (.units test bounds greed next.codeGate inLoop))
      | _, _ => do
        let body ← Node.ofTerms flags (inLoop || greed ≠ .possessive) (.closed .empty) body
        return .closed (.loop bounds greed inLoop body.node)
  | .group index body => do
    let body ← Node.ofTerms flags inLoop (.closed .empty) body
    return .closed (.seq (.mark (startMark index)) (.seq body.node (.mark (endMark index))))
  | .scoped change body => Node.ofTerms (change.apply flags) inLoop next body
  | .back index _ => .ok (.closed (.back index flags.caseRule))
  | .conditional index yes no => do
    let follows := if no.isEmpty then next else .closed .empty
    let yes ← Node.ofTerms flags inLoop follows yes
    let no ← Node.ofTerms flags inLoop next no
    return .closed (.conditional index yes.node no.node)
  | .atomic body => do
    let body ← Node.ofTerms flags inLoop (.closed .empty) body
    return .closed (.atomic body.node)
  | .ahead negated body => do
    let body ← Node.ofTerms flags inLoop (.closed .empty) body
    return .closed (.look 0 negated inLoop body.node)
  | .behind negated body => do
    let width := termsWidth body
    if width.least ≠ width.most then .error .malformed
    else
      let body ← Node.ofTerms flags inLoop (.closed .empty) body
      return .closed (.look width.least negated inLoop body.node)
where
  /-- The part of one character. -/
  test (test : CharTest) : Opened := ⟨.unit test, some test⟩

/-- The part that a sequence stands for; `next` is what follows it. -/
def Node.ofTerms (flags : Flags) (inLoop : Bool) (next : Opened) :
    List Term → Except Defect Opened
  | [] => .ok ⟨.empty, next.first⟩
  | term :: terms => do
    let rest ← Node.ofTerms flags inLoop next terms
    let first ← Node.ofTerm flags inLoop rest term
    return ⟨.seq first.node rest.node, first.first⟩

/-- The part that alternatives stand for. -/
def Node.ofChoice (flags : Flags) (inLoop : Bool) : List (List Term) → Except Defect Node
  | [] => .ok .never
  | terms :: alternatives => do
    let first ← Node.ofTerms flags inLoop (.closed .empty) terms
    return .either first.gate inLoop first.node (← Node.ofChoice flags inLoop alternatives)

end

mutual

/-- How far the conditions in a term look back. -/
def Term.farthestBack : Term → Nat
  | .choice alternatives => choiceFarthestBack alternatives
  | .repeated _ _ body | .group _ body | .scoped _ body | .atomic body | .ahead _ body =>
    termsFarthestBack body
  | .conditional _ yes no => max (termsFarthestBack yes) (termsFarthestBack no)
  | .behind _ body => max (termsWidth body).least (termsFarthestBack body)
  | .code .. | .any | .set _ | .anchor _ | .back .. => 0

/-- How far the conditions in a sequence look back. -/
def termsFarthestBack : List Term → Nat
  | [] => 0
  | term :: terms => max term.farthestBack (termsFarthestBack terms)

/-- How far the conditions in alternatives look back. -/
def choiceFarthestBack : List (List Term) → Nat
  | [] => 0
  | terms :: alternatives => max (termsFarthestBack terms) (choiceFarthestBack alternatives)

end

/-- The part that a whole pattern stands for.  No condition may look back over `2 ^ 31` characters
or more. -/
def Node.ofPattern (flags : Flags) (terms : List Term) : Except Defect Node := do
  let opened ← Node.ofTerms flags false (.closed .empty) terms
  if 2 ^ 31 ≤ termsFarthestBack terms then .error .looksTooFarBack else return opened.node

end Intake.Pattern
