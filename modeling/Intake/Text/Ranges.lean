/-!
# Character classes as tables of ranges

A character class of the Unicode standard is given here by the closed intervals of code points it
consists of, in increasing order.  The classes themselves stand in modules of their own.

## Main definitions

* `CodeRanges` — a list of closed intervals of code points.
* `CodeRanges.holds`, `CodeRanges.contains` — membership of a code point and of a character.
-/

namespace Intake.Text

/-- Closed intervals of code points, in increasing order. -/
abbrev CodeRanges := List (Nat × Nat)

/-- Whether a code point lies in one of the intervals. -/
def CodeRanges.holds (ranges : CodeRanges) (n : Nat) : Bool :=
  ranges.any fun r => r.1 ≤ n && n ≤ r.2

/-- Whether a character lies in one of the intervals. -/
def CodeRanges.contains (ranges : CodeRanges) (c : Char) : Bool :=
  ranges.holds c.toNat

end Intake.Text
