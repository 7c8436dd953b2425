/-!
# Tables of character names

The names of consecutive characters are much alike, so a table gives a name by what it shares with
the name before it: how many characters at the start and how many at the end, and what stands
between.  The two counts are written by one mark each, marks being characters that no name has.

## Main definitions

* `NameRun` — the names of consecutive characters.
* `NameRun.find?` — the character of a run that has a given name.
-/

namespace Intake.Text

/-- The code point of a first character, and the names from that character on, which are written
one after the other in some lines. -/
abbrev NameRun := Nat × List String

/-- Whether a character may stand in a name. -/
def isNameChar (c : Char) : Bool :=
  ('A' ≤ c && c ≤ 'Z') || ('0' ≤ c && c ≤ '9') || c = ' ' || c = '-'

/-- The marks of the counts beyond those that have a letter. -/
def furtherMarks : List Char :=
  "!#$%&()*+,.:;<>?@[]^_|~".toList

/-- The count that a mark stands for: letters count from zero, and the other marks go on. -/
def markedCount (mark : Char) : Nat :=
  if 'a' ≤ mark && mark ≤ 'z' then mark.toNat - 97 else 26 + furtherMarks.idxOf mark

/-- The characters between the marks of a name, with what they share with the name before. -/
def completeName (previous : List Char) (atStart atEnd : Char) (between : List Char) : List Char :=
  previous.take (markedCount atStart) ++ between
    ++ previous.drop (previous.length - markedCount atEnd)

/-- How many names stand before a given one, if it is there.  A name takes up two characters at
least, so `fuel` need not exceed the length of the text. -/
def findName? (name : List Char) : Nat → Nat → List Char → List Char → Option Nat
  | fuel + 1, count, previous, atStart :: atEnd :: text =>
    let current := completeName previous atStart atEnd (text.takeWhile isNameChar)
    if current = name then some count
    else findName? name fuel (count + 1) current (text.dropWhile isNameChar)
  | _, _, _, _ => none

/-- The code point of the character of a run that has the given name. -/
def NameRun.find? (name : List Char) (run : NameRun) : Option Nat :=
  let text := run.2.flatMap (·.toList)
  (findName? name text.length 0 [] text).map (run.1 + ·)

end Intake.Text
