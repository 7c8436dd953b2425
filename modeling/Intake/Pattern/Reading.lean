import Intake.Pattern.Reader
import Intake.Numeric.Reading
import Intake.Text.Identifier

/-!
# Patterns read from text

A pattern is read by recursive descent: alternatives, sequences, terms with their repetitions.
Reading fails where the text is malformed: an unclosed group or set, a repetition of nothing or of
a repetition, an unknown escape, a reference to a group that is not there.

## Main definitions

* `alternatives`, `sequence`, `special` — the parts of the grammar.
* `readTerms` — the terms that a text writes, and the modes of the whole pattern.
-/

namespace Intake.Pattern

open Read
open Text (isAsciiDigit ofDigits)

/-! ## Repetitions -/

/-- The number of repetitions that digits write. -/
def repetitions (digits : List Char) : Read Nat := do
  if Numeric.maxDigits < digits.length then throw .numberTooLong
  else
    let n := ofDigits 10 digits
    if endless ≤ n then throw .tooManyRepetitions else return n

/-- The bounds between braces, after the opening one.  Where no bounds stand there, nothing is
taken. -/
def braceBounds? : Read (Option Bounds) := do
  let saved ← get
  if (← peek) = some (.plain '\x7d') then return none
  else
    let low ← takeAll isAsciiDigit
    let high ← if ← accept ',' then takeAll isAsciiDigit else pure low
    if ← accept '\x7d' then
      let least ← if low.isEmpty then pure 0 else repetitions low
      if high.isEmpty then return some ⟨least, none⟩
      else
        let most ← repetitions high
        if most < least then refuse else return some ⟨least, some most⟩
    else
      set saved
      return none

/-- The bounds that a character which may repeat stands for, if it does. -/
def bounds? (c : Char) : Read (Option Bounds) := do
  match c with
  | '?' => return some ⟨0, some 1⟩
  | '*' => return some ⟨0, none⟩
  | '+' => return some ⟨1, none⟩
  | _ => braceBounds?

/-- What is to be repeated where a term is: the terms of a group that does nothing else than
group them, or the term itself.  Anchors and repetitions cannot be repeated. -/
def repeatable? : Term → Option (List Term)
  | .anchor _ | .repeated .. => none
  | .scoped change body => some (if change.isEmpty then body else [.scoped change body])
  | term => some [term]

/-- The mark that tells which number of repetitions is tried first, if there is one. -/
def greed : Read Greed := do
  match ← peek with
  | some (.plain '?') => advance; return .lazy
  | some (.plain '+') => advance; return .possessive
  | _ => return .greedy

/-- The terms read so far, the latest first, with the latest repeated. -/
def repeatLatest (bounds : Bounds) (done : List Term) : Read (List Term) := do
  match done with
  | [] => refuse
  | term :: done =>
    match repeatable? term with
    | none => refuse
    | some body => return .repeated bounds (← greed) body :: done

/-! ## Modes -/

/-- The modes that letters stand for, the first of which is given, and the character after them. -/
def letters (fuel : Nat) (on : Flags) (c : Char) : Read (Flags × Char) := do
  match fuel, Flags.ofLetter? c with
  | fuel + 1, some flag =>
    let on := on.union flag
    if on.ascii && on.unicode then refuse
    else
      match ← take with
      | .plain next =>
        if [')', '-', ':'].contains next then return (on, next) else letters fuel on next
      | .escaped _ => refuse
  | _, _ => refuse

/-- The modes that begin with the given character: those of the whole pattern from here on, or those
of the group that they begin. -/
def modes (c : Char) : Read (Flags ⊕ FlagChange) := do
  let fuel := (← get).rest.length + 1
  let (on, next) ← if c = '-' then pure ({}, c) else letters fuel {} c
  if next = ')' then return .inl on
  else
    let off ←
      if next = '-' then
        match ← take with
        | .plain first =>
          let (off, last) ← letters fuel {} first
          if last = ':' && !off.choosesScript then pure off else refuse
        | .escaped _ => refuse
      else pure {}
    if on.template || off.template || !(on.inter off).isEmpty then refuse
    else return .inr ⟨on, off⟩

/-! ## Groups -/

/-- Opens a group, with a name if it has one, which no other group may have. -/
def openGroup (name : Option (List Char)) : Read Nat := do
  let s ← get
  let index := s.groups.length + 1
  let s := { s with groups := s.groups ++ [none] }
  match name with
  | none => set s
  | some name =>
    if Text.isIdentifier name && (s.names.lookup name).isNone then
      set { s with names := (name, index) :: s.names }
    else refuse
  return index

/-- Closes a group, whose width is known then. -/
def closeGroup (index : Nat) (body : List Term) : Read Unit :=
  modify fun s => { s with groups := s.groups.set (index - 1) (some (termsWidth body)) }

/-- The most groups of a pattern. -/
def maxGroups : Nat := 1073741823

/-- The group that a condition asks for, by name or by number.  A group that is asked for by number
may come later, but not where the condition looks at what stands before. -/
def conditionGroup (name : List Char) : Read Nat := do
  let index ←
    if Text.isIdentifier name then
      match (← get).names.lookup name with
      | some index => pure index
      | none => refuse
    else
      match Numeric.readWholeNumber? name with
      | some (.ok (.ofNat index)) =>
        if index = 0 || maxGroups ≤ index then refuse
        else
          modify fun s => { s with asked := max s.asked index }
          pure index
      | _ => refuse
  checkBefore index
  return index

/-- Runs the reading of a condition on what stands before. -/
def lookingBack {α : Type} (read : Read α) : Read α := do
  let outer := (← get).before
  let count ← groupCount
  modify fun s => { s with before := some (outer.getD count) }
  let a ← read
  modify fun s => { s with before := outer }
  return a

/-! ## Alternatives -/

/-- The first term that all alternatives begin with. -/
def sharedTerm? : List (List Term) → Option Term
  | (term :: _) :: alternatives =>
    if alternatives.all (·.head?.any term.same) then some term else none
  | _ => none

/-- Splits off the terms that all alternatives begin with. -/
def splitShared : Nat → List (List Term) → List Term × List (List Term)
  | 0, alternatives => ([], alternatives)
  | fuel + 1, alternatives =>
    match sharedTerm? alternatives with
    | none => ([], alternatives)
    | some term =>
      let (shared, rest) := splitShared fuel (alternatives.map (·.drop 1))
      (term :: shared, rest)

/-- The members that an alternative adds to a set, if it matches one character of a few. -/
def setItems? : List Term → Option (List CharItem)
  | [.code n false] => some [.code n]
  | [.set ⟨false, items⟩] => some items
  | _ => none

/-- One sequence that stands for alternatives, of which there are two at least: what they all begin
with is matched once, and single characters make up a set. -/
def joinAlternatives (alternatives : List (List Term)) : List Term :=
  let fuel := (alternatives.head?.map (·.length)).getD 0
  let (shared, rest) := splitShared fuel alternatives
  match rest.mapM setItems? with
  | some items => shared ++ [.set { items := items.flatten.eraseDups }]
  | none => shared ++ [.choice rest]

/-! ## The grammar -/

/-- Whether a character is blank in a verbose pattern. -/
def isLayout (c : Char) : Bool :=
  [' ', '\t', '\n', '\r', '\x0b', '\x0c'].contains c

/-- Drops the rest of a line, which a verbose pattern may use for a comment. -/
def skipLine : Nat → Read Unit
  | 0 => refuse
  | fuel + 1 => do
    match ← peek with
    | none => return ()
    | some token =>
      advance
      if token = .plain '\n' then return () else skipLine fuel

/-- The terms of a sequence, with those of groups that only group them in their place. -/
def spliced (terms : List Term) : List Term :=
  terms.flatMap fun term =>
    match term with
    | .scoped change body => if change.isEmpty then body else [term]
    | _ => [term]

/-- What stands in parentheses: a term, nothing, or modes of the whole pattern. -/
inductive Enclosed where
  | term (term : Term)
  | comment
  | modes

/-- The term of a character that stands for itself, for any character or for a place. -/
def plainTerm (c : Char) : Term :=
  match c with
  | '.' => .any
  | '^' => .anchor .lineStart
  | '$' => .anchor .lineEnd
  | _ => .literal c.toNat

mutual

/-- Sequences with bars between.  Those of the whole pattern are read in its modes, which the first
of them may set. -/
def alternatives (verbose outermost : Bool) : Nat → Read (List Term)
  | 0 => refuse
  | fuel + 1 => do
    let first ← sequence verbose outermost fuel []
    let others ← furtherAlternatives verbose outermost fuel
    if others.isEmpty then return first else return joinAlternatives (first :: others)

/-- The sequences after a first one. -/
def furtherAlternatives (verbose outermost : Bool) : Nat → Read (List (List Term))
  | 0 => refuse
  | fuel + 1 => do
    if ← accept '|' then
      let flags := (← get).flags
      let verbose := if outermost then flags.verbose else verbose
      let terms ← sequence verbose false fuel []
      return terms :: (← furtherAlternatives verbose outermost fuel)
    else return []

/-- The terms up to a bar, a closing parenthesis or the end, after those that are read already.
Modes of the whole pattern may be set before the first term of its first sequence. -/
def sequence (verbose leading : Bool) : Nat → List Term → Read (List Term)
  | 0, _ => refuse
  | fuel + 1, done => do
    let onward := fun done => sequence verbose leading fuel done
    match ← peek with
    | none | some (.plain '|') | some (.plain ')') => return spliced done.reverse
    | some (.escaped c) => do
      advance
      onward ((← escape c) :: done)
    | some (.plain c) => do
      advance
      if verbose && isLayout c then onward done
      else if verbose && c = '#' then
        skipLine ((← get).rest.length + 1)
        onward done
      else if c = '[' then onward ((← charSet) :: done)
      else if ['*', '+', '?', '\x7b'].contains c then
        match ← bounds? c with
        | some bounds => onward (← repeatLatest bounds done)
        | none => onward (.literal c.toNat :: done)
      else if c = '(' then
        let enclosed ← if ← accept '?' then special verbose fuel else capture verbose none fuel
        let flags := (← get).flags
        match enclosed with
        | .term term => onward (term :: done)
        | .comment => onward done
        | .modes =>
          if leading && done.isEmpty then sequence flags.verbose leading fuel done else refuse
      else onward (plainTerm c :: done)

/-- What stands in parentheses after a question mark. -/
def special (verbose : Bool) : Nat → Read Enclosed
  | 0 => refuse
  | fuel + 1 => do
    match ← take with
    | .escaped _ => refuse
    | .plain c =>
      match c with
      | 'P' =>
        if ← accept '<' then capture verbose (some (← takeName '>')) fuel
        else
          expect '='
          match (← get).names.lookup (← takeName ')') with
          | some index => return .term (← reference index)
          | none => refuse
      | ':' => return .term (.scoped {} (← closed verbose fuel))
      | '>' => return .term (.atomic (← closed verbose fuel))
      | '#' =>
        let _ ← skipPast ')' ((← get).rest.length + 1)
        return .comment
      | '=' => return .term (.ahead false (← closed verbose fuel))
      | '!' => return .term (.ahead true (← closed verbose fuel))
      | '<' =>
        let negated ← if ← accept '=' then pure false else do expect '!'; pure true
        return .term (.behind negated (← lookingBack (closed verbose fuel)))
      | '(' =>
        let index ← conditionGroup (← takeName ')')
        let yes ← sequence verbose false fuel []
        let no ← if ← accept '|' then sequence verbose false fuel [] else pure []
        expect ')'
        return .term (.conditional index yes no)
      | _ =>
        match ← modes c with
        | .inl on =>
          modify fun s => { s with flags := s.flags.union on }
          return .modes
        | .inr change =>
          let verbose := (verbose || change.on.verbose) && !change.off.verbose
          return .term (.scoped change (← closed verbose fuel))

/-- A group that is kept, with its name if it has one. -/
def capture (verbose : Bool) (name : Option (List Char)) : Nat → Read Enclosed
  | 0 => refuse
  | fuel + 1 => do
    let index ← openGroup name
    let body ← closed verbose fuel
    closeGroup index body
    return .term (.group index body)

/-- Alternatives up to a closing parenthesis. -/
def closed (verbose : Bool) : Nat → Read (List Term)
  | 0 => refuse
  | fuel + 1 => do
    let body ← alternatives verbose false fuel
    expect ')'
    return body

end

/-! ## Whole patterns -/

/-- The modes of a pattern with a script chosen: that of Unicode, unless the other is asked for. -/
def Flags.settled (flags : Flags) : Except Defect Flags :=
  if flags.ascii && flags.unicode then .error .twoScripts
  else .ok { flags with unicode := !flags.ascii }

/-- The terms that a text writes, and the modes of the whole pattern, which begin with the given
ones. -/
def readTerms (source : List Char) (flags : Flags) : Except Defect (List Term × Flags) := do
  let (rest, dangling) := tokens source
  if rest.isEmpty && dangling then .error .malformed
  else
    let read := alternatives flags.verbose true (6 * rest.length + 6)
    let (terms, s) ← read.run { rest, dangling, flags }
    let flags ← s.flags.settled
    if s.rest.isEmpty && s.asked ≤ s.groups.length then return (terms, flags)
    else .error .malformed

end Intake.Pattern
