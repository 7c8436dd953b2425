import Intake.Text.Ranges

/-!
# White space

The characters that separate words: the space, the line and paragraph ends, the tabs, and the
four information separators.  `trim` takes them off both ends of a text.

## Main definitions

* `isBlank` — the class of white space.
* `trim` — a text without the white space at its ends.
-/

namespace Intake.Text

/-- The intervals of white space. -/
def blankRanges : CodeRanges :=
  [(0x9, 0xD), (0x1C, 0x20), (0x85, 0x85), (0xA0, 0xA0), (0x1680, 0x1680), (0x2000, 0x200A),
   (0x2028, 0x2029), (0x202F, 0x202F), (0x205F, 0x205F), (0x3000, 0x3000)]

/-- Whether a character is white space. -/
def isBlank (c : Char) : Bool :=
  blankRanges.contains c

/-- The characters from the first that is not blank to the last that is not blank. -/
def trimChars (cs : List Char) : List Char :=
  ((cs.dropWhile isBlank).reverse.dropWhile isBlank).reverse

/-- A text without the white space at its ends. -/
def trim (text : String) : String :=
  String.ofList (trimChars text.toList)

end Intake.Text
