import Intake.Pattern.Basic

/-!
# Matching

A pattern is matched by trying its alternatives in order: every part of it is given what to do
with the places it may end at, and the first place that lets the rest succeed is taken.

An attempt that fails leaves something behind.  The marks of groups that it set stay, but for those
beyond the last mark before the attempt, unless it was made in a loop.  A possessive repetition goes
on from the last place that its failed attempt took up.

## Main definitions

* `Cursor` — a place in a text, and the marks set on the way to it.
* `Attempt` — what an attempt to match comes to.
* `Node.run` — the match of a part of a pattern.
* `Pattern.search` — whether a pattern matches somewhere in a text.
-/

namespace Intake.Pattern

/-! ## Places and attempts -/

/-- A place in a text.  The place that was taken up last is kept apart.  The marks are the places
where groups begin and end, in turn. -/
structure Cursor where
  place : Nat
  taken : Nat
  marks : List (Option Nat)

/-- What an attempt to match comes to, with what it leaves behind. -/
inductive Attempt where
  | matched (cursor : Cursor)
  | failed (cursor : Cursor)

/-- A way from a place to a success, given what is to be done at the end of it. -/
abbrev Step := Cursor → (Cursor → Attempt) → Attempt

namespace Cursor

/-- The place, as the one that is taken up. -/
def settle (c : Cursor) : Cursor :=
  { c with taken := c.place }

/-- The cursor at another place, which is taken up. -/
def moveTo (c : Cursor) (place : Nat) : Cursor :=
  { c with place, taken := place }

/-- Sets a mark; marks before it that are not set yet are left open. -/
def setMark (c : Cursor) (index : Nat) : Cursor :=
  let marks := c.marks ++ List.replicate (index + 1 - c.marks.length) none
  { c with marks := marks.set index (some c.place) }

/-- Where a group begins and ends, if it was matched. -/
def group? (c : Cursor) (index : Nat) : Option (Nat × Nat) :=
  match c.marks[startMark index]?.join, c.marks[endMark index]?.join with
  | some start, some stop => if start ≤ stop then some (start, stop) else none
  | _, _ => none

/-- The cursor before an attempt, with what the attempt left behind. -/
def afterFailure (c left : Cursor) (inLoop : Bool) : Cursor where
  place := c.place
  taken := left.taken
  marks := if inLoop then c.marks else left.marks.take c.marks.length

/-- Whether no group ends before it begins. -/
def groupsInOrder : List (Option Nat) → Bool
  | some start :: some stop :: marks => start ≤ stop && groupsInOrder marks
  | _ :: _ :: marks => groupsInOrder marks
  | _ => true

end Cursor

/-- The end of a part that is matched by itself. -/
def finish (c : Cursor) : Attempt :=
  .matched c.settle

/-! ## Anchors and references -/

/-- Whether a character is of a kind at a place. -/
def charIs (text : Array Char) (kind : Char → Bool) (place : Nat) : Bool :=
  text[place]?.any kind

/-- Whether an anchor holds at a place in some modes.  There is no edge of a word, nor a place
without one, in a text without characters. -/
def Anchor.holds (anchor : Anchor) (flags : Flags) (text : Array Char) (place : Nat) : Bool :=
  match anchor with
  | .textStart => place = 0
  | .lineStart => place = 0 || (flags.multiline && charIs text (· = '\n') (place - 1))
  | .textEnd => place = text.size
  | .lineEnd =>
    place = text.size
      || (charIs text (· = '\n') place && (flags.multiline || place + 1 = text.size))
  | .wordEdge negated =>
    let isWord := CharClass.word.contains flags.ascii
    let before := 0 < place && charIs text isWord (place - 1)
    !text.isEmpty && (before != charIs text isWord place) != negated

/-- Whether the characters from one place on are those from another on, for so many. -/
def repeats (rule : CaseRule) (text : Array Char) : Nat → Nat → Nat → Bool
  | 0, _, _ => true
  | count + 1, start, place =>
    match text[start]?, text[place]? with
    | some c, some d =>
      rule.fold c = rule.fold d && repeats rule text count (start + 1) (place + 1)
    | _, _ => false

/-! ## Repetition of single characters -/

/-- How many characters from a place on are as asked, at most so many. -/
def countFrom (test : CharTest) (text : Array Char) : Nat → Nat → Nat
  | 0, _ => 0
  | atMost + 1, place =>
    if test.acceptsAt text place then countFrom test text atMost (place + 1) + 1 else 0

/-- Tries what follows from a place and, for so many times, from the place before. -/
def giveBack (gate : Option CharTest) (text : Array Char) (inLoop : Bool)
    (done : Cursor → Attempt) : Nat → Cursor → Attempt
  | spare, c =>
    let retry := fun c : Cursor =>
      match spare with
      | 0 => .failed c
      | spare + 1 => giveBack gate text inLoop done spare { c with place := c.place - 1 }
    if gate.any (!·.acceptsAt text c.place) then retry c
    else
      match done c.settle with
      | .matched d => .matched d
      | .failed d => retry (c.afterFailure d inLoop)

/-- Tries what follows from a place, and then from the place after each further character that is as
asked. -/
def takeMore (test : CharTest) (bounds : Bounds) (text : Array Char) (inLoop : Bool)
    (done : Cursor → Attempt) : Nat → Nat → Cursor → Attempt
  | 0, _, c => .failed c
  | fuel + 1, count, c =>
    if bounds.most.any (· < count) then .failed c
    else
      match done c.settle with
      | .matched d => .matched d
      | .failed d =>
        let c := (c.afterFailure d inLoop).settle
        if test.acceptsAt text c.place then
          let taken := if test.looksUpFolded then c.place + 1 else c.place
          takeMore test bounds text inLoop done fuel (count + 1)
            { c with place := c.place + 1, taken }
        else .failed c

/-- Repeats a test of single characters. -/
def runUnits (test : CharTest) (bounds : Bounds) (greed : Greed) (gate : Option CharTest)
    (inLoop : Bool) (text : Array Char) : Step := fun c done =>
  let left := text.size - c.place
  if left < bounds.least then .failed c
  else
    let atMost := if greed = .lazy then bounds.least else bounds.most.getD left
    let count := countFrom test text (min atMost left) c.place
    let reached := c.place + count
    if count < bounds.least then
      .failed { c with taken := if test.looksUpFolded then reached else c.place }
    else
      let c := c.moveTo reached
      match greed with
      | .lazy => takeMore test bounds text inLoop done (left + 1) count c
      | .greedy => giveBack gate text inLoop done (count - bounds.least) c
      | .possessive => done c

/-! ## Repetition of parts -/

/-- The end of an attempt that, if it failed, leaves the place of another cursor taken up. -/
def Attempt.settledAt (attempt : Attempt) (c : Cursor) : Attempt :=
  match attempt with
  | .matched d => .matched d
  | .failed d => .failed { d with taken := c.place }

/-- Repeats a step, more often first or less often first.  Beyond the fewest repetitions, one that
does not move is the last, so `fuel` need only exceed those and what is left of the text. -/
def iterate (step : Step) (bounds : Bounds) (isLazy inLoop : Bool) (done : Cursor → Attempt) :
    Nat → Nat → Option Nat → Cursor → Attempt
  | 0, _, _, c => .failed c
  | fuel + 1, count, last, c =>
    let c := c.settle
    let again := fun (last : Option Nat) (c : Cursor) =>
      step c (iterate step bounds isLazy inLoop done fuel (count + 1) last)
    let mayGoOn := bounds.allowsAfter count && last ≠ some c.place
    if count < bounds.least then (again last c).settledAt c
    else if isLazy then
      match done c with
      | .matched d => .matched d
      | .failed d =>
        let c := (c.afterFailure d inLoop).settle
        if mayGoOn then (again (some c.place) c).settledAt c else .failed c
    else if mayGoOn then
      match again (some c.place) c with
      | .matched d => .matched d
      | .failed _ => (done c).settledAt c
    else (done c).settledAt c

/-- Repeats a step as often as it goes, each time from the place that was taken up last, and without
a way back. -/
def iterateFirmly (step : Step) (bounds : Bounds) (start : Nat) (done : Cursor → Attempt) :
    Nat → Nat → Option Nat → Cursor → Attempt
  | 0, _, _, c => .failed c
  | fuel + 1, count, last, c =>
    let c := c.moveTo c.taken
    if count < bounds.least then
      match step c finish with
      | .matched d => iterateFirmly step bounds start done fuel (count + 1) none d
      | .failed d => .failed { d with taken := start }
    else if bounds.allowsAfter count && last ≠ some c.place then
      match step c finish with
      | .matched d => iterateFirmly step bounds start done fuel (count + 1) (some c.place) d
      | .failed d => done ((c.afterFailure d true).moveTo d.taken)
    else done c

/-! ## Patterns -/

/-- A number of repetitions that no loop goes beyond. -/
def loopFuel (bounds : Bounds) (text : Array Char) : Nat :=
  bounds.least + 2 * text.size + 4

/-- The match of a part of a pattern. -/
def Node.run (text : Array Char) : Node → Step
  | .empty, c, done => done c
  | .never, c, _ => .failed c
  | .unit test, c, done =>
    if test.acceptsAt text c.place then done { c with place := c.place + 1 } else .failed c
  | .anchor spot flags, c, done =>
    if spot.holds flags text c.place then done c else .failed c
  | .mark index, c, done => done (c.setMark index)
  | .seq first second, c, done => first.run text c fun d => second.run text d done
  | .either gate inLoop first second, c, done =>
    if gate.any (!·.acceptsAt text c.place) then second.run text c done
    else
      match first.run text c.settle done with
      | .matched d => .matched d
      | .failed d => second.run text (c.afterFailure d inLoop) done
  | .units test bounds greed gate inLoop, c, done =>
    runUnits test bounds greed gate inLoop text c done
  | .loop bounds .possessive _ body, c, done =>
    iterateFirmly (body.run text) bounds c.place done (loopFuel bounds text) 0 none c.settle
  | .loop bounds greed inLoop body, c, done =>
    iterate (body.run text) bounds (greed = .lazy) inLoop done (loopFuel bounds text) 0 none c
  | .back index rule, c, done =>
    match c.group? index with
    | some (start, stop) =>
      if repeats rule text (stop - start) start c.place then
        done { c with place := c.place + (stop - start) }
      else .failed c
    | none => .failed c
  | .conditional index yes no, c, done =>
    if (c.group? index).isSome then yes.run text c done else no.run text c done
  | .atomic body, c, done =>
    match body.run text c.settle finish with
    | .matched d => done d
    | .failed d => .failed { d with taken := c.place }
  | .look width false _ body, c, done =>
    if c.place < width then .failed c
    else
      match body.run text (c.moveTo (c.place - width)) finish with
      | .matched d => done { d with place := c.place }
      | .failed d => .failed d
  | .look width true inLoop body, c, done =>
    if c.place < width then done c
    else
      match body.run text (c.moveTo (c.place - width)) finish with
      | .matched d => .failed d
      | .failed d => done (c.afterFailure d inLoop)

/-- Whether a pattern matches from one of the places that follow, so many of which are tried. -/
def matchesFrom (node : Node) (text : Array Char) : Nat → Nat → Except Defect Bool
  | 0, _ => .ok false
  | count + 1, place =>
    match node.run text ⟨place, place, []⟩ finish with
    | .matched c => if Cursor.groupsInOrder c.marks then .ok true else .error .crossedGroup
    | .failed _ => matchesFrom node text count (place + 1)

/-- Whether a pattern matches somewhere in a text.  Places with too little text after them are not
tried. -/
def search (pattern : Pattern) (text : String) : Except Defect Bool :=
  let chars := text.toList.toArray
  matchesFrom pattern.body chars (chars.size + 1 - pattern.least) 0

end Intake.Pattern
