/-!
# Rounding a quotient

A power of whole numbers is the one that computes, also where a module knows whole numbers as a
monoid: the programs and the theory about them then mean the same term by `2 ^ n`.

## Main definitions

* `roundHalfEven` — the whole number nearest to a quotient; halfway cases go to the even one.
* `roundHalfAway` — the same, but halfway cases go up.
* `powerRatio` — a quotient counted in units of a power of ten.
-/

attribute [instance (high), default_instance (high + 1)] instPowNat

namespace Intake.Numeric

/-- The whole number nearest to `num / den`; a quotient halfway between two goes to the even one. -/
def roundHalfEven (num den : Nat) : Nat :=
  let quotient := num / den
  let twice := 2 * (num % den)
  if twice < den then quotient
  else if den < twice then quotient + 1
  else quotient + quotient % 2

/-- The whole number nearest to `num / den`; a quotient halfway between two goes to the larger
one. -/
def roundHalfAway (num den : Nat) : Nat :=
  (2 * num + den) / (2 * den)

/-- The quotient `num / den` divided by `10 ^ power`, as a numerator and a denominator. -/
def powerRatio (num den : Nat) (power : Int) : Nat × Nat :=
  if 0 ≤ power then (num, den * 10 ^ power.toNat) else (num * 10 ^ (-power).toNat, den)

end Intake.Numeric
