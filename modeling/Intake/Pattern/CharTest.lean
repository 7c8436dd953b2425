import Intake.Text.Blank
import Intake.Text.DecimalDigit
import Intake.Text.Word
import Intake.Text.Case
import Intake.Text.Ascii
import Intake.Pattern.Flags

/-!
# Tests of single characters

What a pattern asks of one character: to be a given one, to lie in a set, or only to be there.
Where case is ignored, the character of the text is put into lower case first, and then has to be
what some character of the pattern becomes in lower case, or a twin of that.

## Main definitions

* `CharSet` — a set of characters as a pattern writes it.
* `CaseRule` — how characters are compared.
* `CharTest` — what is asked of a character.
* `CharTest.accepts` — whether a character is as asked.
-/

namespace Intake.Pattern

/-! ## Sets of characters -/

/-- The classes of characters that have a letter of their own. -/
inductive CharClass where
  | digit
  | blank
  | word
deriving DecidableEq, Repr

/-- Whether a character belongs to a class; an ASCII class has no other characters. -/
def CharClass.contains (cls : CharClass) (ascii : Bool) (c : Char) : Bool :=
  (!ascii || c.toNat < 128) &&
    match cls with
    | .digit => Text.isDigit c
    | .blank => Text.isBlank c && !(ascii && 0x1C ≤ c.toNat && c.toNat < 0x20)
    | .word => Text.isWord c

/-- One member of a set: a code point, a range of them, or a class or what is outside it. -/
inductive CharItem where
  | code (n : Nat)
  | range (low high : Nat)
  | named (cls : CharClass) (negated : Bool)
deriving DecidableEq, Repr

/-- The characters of some members, or all others. -/
structure CharSet where
  negated : Bool := false
  items : List CharItem
deriving DecidableEq, Repr

/-! ## Case -/

/-- How a pattern compares characters. -/
inductive CaseRule where
  | exact
  | ignore
  | ignoreAscii
deriving DecidableEq, Repr

/-- How characters are compared in a mode. -/
def Flags.caseRule (flags : Flags) : CaseRule :=
  if !flags.ignoreCase then .exact else if flags.ascii then .ignoreAscii else .ignore

namespace CaseRule

/-- A character as it is compared. -/
def fold (rule : CaseRule) (c : Char) : Char :=
  match rule with
  | .exact => c
  | .ignore => Text.lower c
  | .ignoreAscii => Text.lowerAscii c

/-- The code points that count as a folded character. -/
def origins (rule : CaseRule) (folded : Char) : List Nat :=
  match rule with
  | .exact => [folded.toNat]
  | .ignore => Text.caseVariants folded.toNat
  | .ignoreAscii =>
    if 'a' ≤ folded && folded ≤ 'z' then [folded.toNat, folded.toNat - 32] else [folded.toNat]

/-- Whether a code point differs from others by case alone. -/
def distinguishes (rule : CaseRule) (n : Nat) : Bool :=
  match rule with
  | .exact => false
  | .ignore => Text.isCased (Char.ofNat n)
  | .ignoreAscii => n < 128 && Text.isAsciiLetter (Char.ofNat n)

end CaseRule

/-- The last code point of the plane in which a member of a set counts with all its forms. -/
def lastBasic : Nat := 0xFFFF

/-- Whether a folded character belongs to a member of a set.  A code point beyond the basic plane
counts as it is written, and a range that reaches beyond it holds a character also by its
capital. -/
def CharItem.contains (rule : CaseRule) (ascii : Bool) (c : Char) : CharItem → Bool
  | .code n =>
    if rule = .exact || lastBasic < n then c.toNat = n else (rule.origins c).contains n
  | .range low high =>
    let lies := fun n : Nat => low ≤ n && n ≤ high
    if rule = .exact then lies c.toNat
    else
      (rule.origins c).any (fun n => lies n && n ≤ lastBasic)
        || (lastBasic < high && (lies c.toNat || lies (Text.upper c).toNat))
  | .named cls negated => cls.contains ascii c != negated

/-- Whether a member of a set holds characters that differ by case alone. -/
def CharItem.isCased (rule : CaseRule) : CharItem → Bool
  | .code n => rule ≠ .exact && (lastBasic < n || rule.distinguishes n)
  | .range low high =>
    rule ≠ .exact && (lastBasic < high
      || (List.range (high + 1 - low)).any fun i => rule.distinguishes (low + i))
  | .named .. => false

/-! ## Tests -/

/-- What is asked of a character. -/
inductive CharTest where
  | any
  | inLine
  | code (n : Nat) (negated : Bool) (rule : CaseRule)
  | set (chars : CharSet) (ascii : Bool) (rule : CaseRule)
deriving DecidableEq, Repr

namespace CharTest

/-- Whether a character is as asked. -/
def accepts (test : CharTest) (c : Char) : Bool :=
  match test with
  | .any => true
  | .inLine => c ≠ '\n'
  | .code n negated rule => (rule.origins (rule.fold c)).contains n != negated
  | .set chars ascii rule =>
    (chars.items.any (·.contains rule ascii (rule.fold c))) != chars.negated

/-- Whether the character at a place is as asked. -/
def acceptsAt (test : CharTest) (text : Array Char) (place : Nat) : Bool :=
  text[place]?.any test.accepts

/-- Whether a test looks at a character as it is, and asks for it to be one of a few. -/
def isPlain : CharTest → Bool
  | .any | .inLine => false
  | .code n negated rule => !negated && !rule.distinguishes n
  | .set chars _ rule => !chars.items.any (·.isCased rule)

/-- Whether a test asks for one character as it is. -/
def isPlainCode : CharTest → Bool
  | .set .. => false
  | test => test.isPlain

/-- Whether a test looks a folded character up in a set. -/
def looksUpFolded : CharTest → Bool
  | .any | .inLine => false
  | .code n _ rule => rule = .ignore && rule.distinguishes n
      && 1 < (Text.twinsOf (Text.lower (Char.ofNat n)).toNat).length
  | .set chars _ rule => chars.items.any (·.isCased rule)

end CharTest

end Intake.Pattern
