import Intake.Calendar.Zone

/-!
# What surrounds a parse

Some rules depend on more than the input: numbers for people on the active locale, and dates on the
clocks of the place.

## Main definitions

* `Setting` — a locale and the clocks of a place.
* `Setting.universal` — a locale where the clocks show universal time.
-/

namespace Intake

/-- The active locale, and the clocks of the place. -/
structure Setting where
  locale : String
  zone : Calendar.Zone

/-- A locale where the clocks show universal time. -/
def Setting.universal (locale : String) : Setting :=
  ⟨locale, .utc⟩

/-- A locale by itself has clocks that show universal time. -/
instance : Coe String Setting :=
  ⟨.universal⟩

end Intake
