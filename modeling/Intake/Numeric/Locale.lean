import Intake.Text.Case

/-!
# Locales

A locale tag decides whether a number shows its decimal point as a point or as a comma.  The
language of the tag settles it, but a few regions differ from their language.

## Main definitions

* `Separator` — the two conventions.
* `decimalSeparator` — the convention of a locale tag.
-/

namespace Intake.Numeric

/-- The mark before the decimal places of a number. -/
inductive Separator where
  | point
  | comma
deriving DecidableEq, Repr

/-- The character of a decimal mark. -/
def Separator.char : Separator → Char
  | .point => '.'
  | .comma => ','

/-- The languages that write `3,14`. -/
def commaLanguages : List String :=
  ["af", "az", "be", "bg", "bs", "ca", "cs", "da", "de", "el", "es", "et", "eu", "fi", "fo", "fr",
   "gl", "hr", "hu", "hy", "id", "is", "it", "ka", "kk", "ky", "lt", "lv", "mk", "mn", "nb", "nl",
   "nn", "no", "pl", "pt", "ro", "ru", "sk", "sl", "sq", "sr", "sv", "tr", "uk", "uz", "vi"]

/-- The regions of those languages that write `3.14`. -/
def pointRegions : List String :=
  ["de-ch", "de-li", "it-ch", "es-mx", "es-us"]

/-- A locale tag in its canonical form: lower case, with hyphens between its parts. -/
def canonicalTag (locale : String) : List Char :=
  Text.lowerAll (locale.toList.map fun c => if c = '_' then '-' else c)

/-- The decimal mark that a locale uses. -/
def decimalSeparator (locale : String) : Separator :=
  let tag := canonicalTag locale
  if pointRegions.any (·.toList = tag) then .point
  else if commaLanguages.any (·.toList = tag.takeWhile (· ≠ '-')) then .comma
  else .point

end Intake.Numeric
