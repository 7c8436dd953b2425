import Intake.Text.CharName.Alphabets
import Intake.Text.CharName.Scripts
import Intake.Text.CharName.Symbols
import Intake.Text.CharName.Kana
import Intake.Text.CharName.Syllabaries
import Intake.Text.CharName.Antiquity
import Intake.Text.CharName.Notations
import Intake.Text.CharName.Pictographs
import Intake.Text.CharName.Aliases
import Intake.Text.Ascii
import Intake.Text.Ranges

/-!
# Characters by name

The characters of the Unicode standard by their names.  Most names stand in tables.  Those of
ideographs end in the code point, and those of Hangul syllables are put together from the sounds of
the syllable.

## Main definitions

* `ideograph?`, `hangul?`, `numbered?` — the characters whose names follow a rule.
* `charNamed?` — the code point of the character with a given name.
-/

namespace Intake.Text

/-! ## Names that end in a code point -/

/-- Whether a character is a digit to base sixteen that is no small letter. -/
def isUpperHexDigit (c : Char) : Bool :=
  isAsciiDigit c || ('A' ≤ c && c ≤ 'F')

/-- The code points of the unified ideographs. -/
def ideographRanges : CodeRanges :=
  [(0x3400, 0x4DBF), (0x4E00, 0x9FFF), (0x20000, 0x2A6DF), (0x2A700, 0x2B738), (0x2B740, 0x2B81D),
   (0x2B820, 0x2CEA1), (0x2CEB0, 0x2EBE0), (0x30000, 0x3134A)]

/-- The unified ideograph with the given digits at the end of its name, four or five of them. -/
def ideograph? (digits : List Char) : Option Nat :=
  let n := ofDigits 16 digits
  if (digits.length = 4 || digits.length = 5) && digits.all isUpperHexDigit
    && ideographRanges.holds n then some n
  else none

/-- The families of characters that are told apart by their code points alone. -/
def numberedFamilies : List (String × CodeRanges) :=
  [("CJK COMPATIBILITY IDEOGRAPH-", [(0xF900, 0xFA6D), (0xFA70, 0xFAD9), (0x2F800, 0x2FA1D)]),
   ("KHITAN SMALL SCRIPT CHARACTER-", [(0x18B00, 0x18CD5)]),
   ("NUSHU CHARACTER-", [(0x1B170, 0x1B2FB)])]

/-- The character of a family whose name ends in its code point, with no zero before it. -/
def numbered? (name : List Char) : Option Nat :=
  numberedFamilies.findSome? fun (family, ranges) =>
    let start := family.toList
    let digits := name.drop start.length
    let n := ofDigits 16 digits
    if start.isPrefixOf name && digits.all isUpperHexDigit && digits.head? ≠ some '0'
      && CodeRanges.holds ranges n then some n
    else none

/-! ## Hangul syllables -/

/-- The consonants that a syllable may begin with. -/
def hangulLeads : List String :=
  ["G", "GG", "N", "D", "DD", "R", "M", "B", "BB", "S", "SS", "", "J", "JJ", "C", "K", "T", "P",
   "H"]

/-- The vowels of a syllable. -/
def hangulVowels : List String :=
  ["A", "AE", "YA", "YAE", "EO", "E", "YEO", "YE", "O", "WA", "WAE", "OE", "YO", "U", "WEO", "WE",
   "WI", "YU", "EU", "YI", "I"]

/-- The consonants that a syllable may end in. -/
def hangulTails : List String :=
  ["", "G", "GG", "GS", "N", "NJ", "NH", "D", "L", "LG", "LM", "LB", "LS", "LT", "LP", "LH", "M",
   "B", "BS", "S", "SS", "NG", "J", "C", "K", "T", "P", "H"]

/-- The place of the longest sound that a text begins with, and the rest of the text. -/
def takeSound? (sounds : List String) (cs : List Char) : Option (Nat × List Char) :=
  let fitting := sounds.zipIdx.filter fun sound => sound.1.toList.isPrefixOf cs
  (fitting.foldl (fun (best : Option (String × Nat)) sound =>
    if best.all (·.1.length < sound.1.length) then some sound else best) none).map
    fun (sound, place) => (place, cs.drop sound.length)

/-- The syllable that the given sounds make up; every sound is as long as it can be. -/
def hangul? (cs : List Char) : Option Nat := do
  let (lead, cs) ← takeSound? hangulLeads cs
  let (vowel, cs) ← takeSound? hangulVowels cs
  let (tail, cs) ← takeSound? hangulTails cs
  if cs.isEmpty then
    some (0xAC00 + (lead * hangulVowels.length + vowel) * hangulTails.length + tail)
  else none

/-! ## All names -/

/-- The tables of names. -/
def nameTables : List (List NameRun) :=
  [alphabetNames, scriptNames, symbolNames, kanaNames, syllableNames, antiquityNames, notationNames,
   pictographNames, aliasNames]

/-- A letter of ASCII in upper case; other characters stay as they are. -/
def upperAscii (c : Char) : Char :=
  if 'a' ≤ c && c ≤ 'z' then Char.ofNat (c.toNat - 32) else c

/-- The code point of the character with a given name.  Letters may be of either case, but not in
the names of unified ideographs and of syllables. -/
def charNamed? (name : List Char) : Option Nat :=
  let ideograph := "CJK UNIFIED IDEOGRAPH-".toList
  let syllable := "HANGUL SYLLABLE ".toList
  if ideograph.isPrefixOf name then ideograph? (name.drop ideograph.length)
  else if syllable.isPrefixOf name then hangul? (name.drop syllable.length)
  else
    let name := name.map upperAscii
    (numbered? name).or
      (nameTables.findSome? fun table => table.findSome? (NameRun.find? name))

end Intake.Text
