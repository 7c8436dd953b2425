import Intake.Pattern.Term
import Intake.Pattern.Defect
import Intake.Text.CharName

/-!
# Readers of patterns

A pattern is read as tokens: a character that stands for itself, or a backslash with the character
after it.  A backslash at the very end is refused as soon as it would be the next token.

## Main definitions

* `Token` — a character, escaped or not.
* `Reader` — what is known while reading.
* `Read` — a part of the reading of a pattern.
* `escape`, `setEscape` — what a token with a backslash stands for.
* `charSet` — a set after its opening bracket.
-/

namespace Intake.Pattern

/-! ## Tokens -/

/-- A character of a pattern, with or without a backslash before it. -/
inductive Token where
  | plain (c : Char)
  | escaped (c : Char)
deriving DecidableEq, Repr

/-- The tokens of a text, and whether a backslash is left at its end. -/
def tokens : List Char → List Token × Bool
  | [] => ([], false)
  | ['\\'] => ([], true)
  | '\\' :: c :: cs => ((tokens cs).map (.escaped c :: ·) id)
  | c :: cs => ((tokens cs).map (.plain c :: ·) id)

/-- The characters of a token. -/
def Token.chars : Token → List Char
  | .plain c => [c]
  | .escaped c => ['\\', c]

/-! ## Reading -/

/-- What is left to read and whether a backslash ends it, the modes of the whole pattern, the widths
of the groups in the order of their opening (an open group has none yet), the names of groups, how
many groups there were where a condition on what stands before was begun, and the largest group
that a condition asks for. -/
structure Reader where
  rest : List Token
  dangling : Bool
  flags : Flags
  groups : List (Option Width) := []
  names : List (List Char × Nat) := []
  before : Option Nat := none
  asked : Nat := 0

/-- A part of the reading of a pattern. -/
abbrev Read := StateT Reader (Except Defect)

namespace Read

/-- Ends the reading of a malformed text. -/
def refuse {α : Type} : Read α :=
  throw .malformed

/-- The next token, which is left where it is. -/
def peek : Read (Option Token) := do
  return (← get).rest.head?

/-- Moves past the next token. -/
def advance : Read Unit := do
  let s ← get
  let rest := s.rest.drop 1
  if rest.isEmpty && s.dangling then refuse else set { s with rest }

/-- The next token; there has to be one. -/
def take : Read Token := do
  match ← peek with
  | none => refuse
  | some token => advance; return token

/-- Takes a given character if it is next, and tells whether it was. -/
def accept (c : Char) : Read Bool := do
  if (← peek) = some (.plain c) then advance; return true else return false

/-- Takes a given character, which has to be next. -/
def expect (c : Char) : Read Unit := do
  if ← accept c then return () else refuse

/-- The next characters of a kind, at most so many. -/
def takeWhile (kind : Char → Bool) : Nat → Read (List Char)
  | 0 => return []
  | atMost + 1 => do
    match ← peek with
    | some (.plain c) =>
      if kind c then
        advance
        return c :: (← takeWhile kind atMost)
      else return []
    | _ => return []

/-- All characters of a kind that come next. -/
def takeAll (kind : Char → Bool) : Read (List Char) := do
  takeWhile kind (← get).rest.length

/-- Takes tokens up to a closing character, which is taken too, and gives their characters. -/
def skipPast (close : Char) : Nat → Read (List Char)
  | 0 => refuse
  | fuel + 1 => do
    let token ← take
    if token = .plain close then return []
    else return token.chars ++ (← skipPast close fuel)

/-- What stands before a closing character; it must not be empty. -/
def takeName (close : Char) : Read (List Char) := do
  let name ← skipPast close ((← get).rest.length + 1)
  if name.isEmpty then refuse else return name

/-- How many groups were opened. -/
def groupCount : Read Nat := do
  return (← get).groups.length

/-- The width of a group that is closed. -/
def groupWidth? (index : Nat) : Read (Option Width) := do
  return (← get).groups[index - 1]?.join

/-- Refuses a group that a condition on what stands before must not refer to: it has to be closed,
and not to belong to the condition. -/
def checkBefore (index : Nat) : Read Unit := do
  match (← get).before with
  | none => return ()
  | some count =>
    if (← groupWidth? index).isNone || count < index then refuse else return ()

end Read

open Read
open Text (isAsciiDigit isAsciiLetter isHexDigit isOctalDigit ofDigits)

/-! ## Escapes -/

/-- The code point that exactly so many digits to base sixteen write. -/
def hexEscape (width : Nat) : Read Nat := do
  let digits ← takeWhile isHexDigit width
  let n := ofDigits 16 digits
  if digits.length = width && n < 0x110000 then return n else refuse

/-- The code point of the character that is named between braces. -/
def nameEscape : Read Nat := do
  expect '\x7b'
  match Text.charNamed? (← takeName '\x7d') with
  | some n => return n
  | none => refuse

/-- The class that a letter after a backslash stands for. -/
def classEscape? : Char → Option CharItem
  | 'd' => some (.named .digit false)
  | 'D' => some (.named .digit true)
  | 's' => some (.named .blank false)
  | 'S' => some (.named .blank true)
  | 'w' => some (.named .word false)
  | 'W' => some (.named .word true)
  | _ => none

/-- The control character that a letter after a backslash stands for. -/
def controlEscape? : Char → Option Nat
  | 'a' => some 7
  | 'f' => some 12
  | 'n' => some 10
  | 'r' => some 13
  | 't' => some 9
  | 'v' => some 11
  | _ => none

/-- The code point that an escape writes after its first character; letters of no meaning are
refused. -/
def codeEscape (c : Char) : Read Nat := do
  match controlEscape? c with
  | some n => return n
  | none =>
    if c = 'x' then hexEscape 2
    else if c = 'u' then hexEscape 4
    else if c = 'U' then hexEscape 8
    else if c = 'N' then nameEscape
    else if isAsciiLetter c then refuse
    else return c.toNat

/-- The code point that up to three octal digits write, the first of which is given. -/
def octalEscape (first : Char) : Read Nat := do
  let n := ofDigits 8 (first :: (← takeWhile isOctalDigit 2))
  if n ≤ 255 then return n else refuse

/-- A reference to a group, which has to be there and closed. -/
def reference (index : Nat) : Read Term := do
  match ← groupWidth? index with
  | some width =>
    if index = 0 then refuse
    else
      checkBefore index
      return .back index width
  | none => refuse

/-- The reference or the code point that an escape writes which begins with a digit other than
zero: three octal digits are a code point. -/
def numberEscape (c : Char) : Read Term := do
  match ← takeWhile isAsciiDigit 1 with
  | [d] =>
    if isOctalDigit c && isOctalDigit d then
      match ← takeWhile isOctalDigit 1 with
      | [e] =>
        let n := ofDigits 8 [c, d, e]
        if n ≤ 255 then return .literal n else refuse
      | _ => reference (ofDigits 10 [c, d])
    else reference (ofDigits 10 [c, d])
  | _ => reference (ofDigits 10 [c])

/-- The term that an escape outside a set stands for. -/
def escape (c : Char) : Read Term := do
  match classEscape? c with
  | some item => return .set { items := [item] }
  | none =>
    match c with
    | 'A' => return .anchor .textStart
    | 'Z' => return .anchor .textEnd
    | 'b' => return .anchor (.wordEdge false)
    | 'B' => return .anchor (.wordEdge true)
    | '0' => return .literal (← octalEscape '0')
    | _ => if isAsciiDigit c then numberEscape c else return .literal (← codeEscape c)

/-! ## Sets -/

/-- The member of a set that an escape stands for. -/
def setEscape (c : Char) : Read CharItem := do
  match classEscape? c with
  | some item => return item
  | none =>
    if c = 'b' then return .code 8
    else if isOctalDigit c then return .code (← octalEscape c)
    else if isAsciiDigit c then refuse
    else return .code (← codeEscape c)

/-- The member of a set that a token stands for. -/
def setMember : Token → Read CharItem
  | .plain c => return .code c.toNat
  | .escaped c => setEscape c

/-- The members of a set up to its closing bracket, which may stand first as a member. -/
def setMembers : Nat → List CharItem → Read (List CharItem)
  | 0, _ => refuse
  | fuel + 1, items => do
    let token ← take
    if token = .plain ']' && !items.isEmpty then return items.reverse
    else
      let item ← setMember token
      if ← accept '-' then
        let token ← take
        if token = .plain ']' then return (.code 45 :: item :: items).reverse
        else
          match item, ← setMember token with
          | .code low, .code high =>
            if low ≤ high then setMembers fuel (.range low high :: items) else refuse
          | _, _ => refuse
      else setMembers fuel (item :: items)

/-- A set after its opening bracket.  A set of one character is that character, or any other. -/
def charSet : Read Term := do
  let negated ← accept '^'
  let items := (← setMembers ((← get).rest.length + 1) []).eraseDups
  match items with
  | [.code n] => return .code n negated
  | _ => return .set { negated, items }

end Intake.Pattern
