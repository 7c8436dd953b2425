import Intake.Calendar.Zone
import Intake.Proofs.Calendar.Ordinal
import Intake.Proofs.Outcome

/-!
# Seconds that are found

To find the second at which clocks show a given one, they are read at up to four seconds near by.
The search fails where one of these readings is not in the calendar.  No reading is four days away,
so that all the moments are found that are as far from both ends of the calendar.

## Main definitions

* `Zone.Shows` — what the clocks show at a second is in the calendar.
* `Zone.Finds` — so are all the readings of a search.
* `Moment.Unplaced` — a moment whose second is not found.

## Main statements

* `Zone.exists_secondOf_iff` — a second is found if all the readings are in the calendar.
* `Zone.finds_of_inner`, `Moment.Unplaced.near_end` — what is four days from the ends of the
  calendar is found.
* `Zone.finds_fixed_iff`, `Moment.unplaced_utc_iff` — what is not found by clocks that are never
  set.
* `Zone.exists_utc_moment?` — clocks that show universal time at an instant.
-/

namespace Intake.Calendar

open Outcome (bind_eq_ok ok_bind)

namespace Zone

variable {zone : Zone} {second shown ahead : Int} {again : Bool}

/-! ## Readings -/

/-- What the clocks show at a second of universal time is in the calendar. -/
def Shows (zone : Zone) (second : Int) : Prop :=
  firstSecond ≤ second + zone.ahead second ∧ second + zone.ahead second < endSecond

theorem read_eq_ok_iff :
    zone.read second = .ok ahead ↔ zone.Shows second ∧ zone.ahead second = ahead := by
  simp only [read, Shows]
  split
  · simp only [reduceCtorEq, false_iff]
    omega
  · split
    · simp only [reduceCtorEq, false_iff]
      omega
    · simp only [Except.ok.injEq]
      omega

theorem Shows.read (h : zone.Shows second) : zone.read second = .ok (zone.ahead second) :=
  read_eq_ok_iff.mpr ⟨h, rfl⟩

/-! ## Searches -/

/-- Where the clocks are read for another guess at when they show a second. -/
def probe (zone : Zone) (shown : Int) (again : Bool) : Int :=
  let first := shown - zone.ahead shown
  if zone.ahead first ≠ zone.ahead shown then first
  else if again then first + secondsPerDay
  else first - secondsPerDay

/-- All the readings that are made to find when the clocks show a second are in the calendar. -/
structure Finds (zone : Zone) (shown : Int) (again : Bool) : Prop where
  guess : zone.Shows shown
  first : zone.Shows (shown - zone.ahead shown)
  probe : zone.Shows (zone.probe shown again)
  second : zone.ahead (zone.probe shown again) ≠ zone.ahead shown →
    zone.Shows (shown - zone.ahead (zone.probe shown again))

/-- A second is found if all the readings are in the calendar, and only then. -/
theorem exists_secondOf_iff :
    (∃ second, zone.secondOf shown again = .ok second) ↔ zone.Finds shown again := by
  constructor
  · rintro ⟨found, h⟩
    obtain ⟨guess, hread, h⟩ := bind_eq_ok.mp h
    obtain ⟨hguess, rfl⟩ := read_eq_ok_iff.mp hread
    obtain ⟨ahead, hread, h⟩ := bind_eq_ok.mp h
    obtain ⟨hfirst, rfl⟩ := read_eq_ok_iff.mp hread
    obtain ⟨other, hread, h⟩ := bind_eq_ok.mp h
    obtain ⟨hprobe, rfl⟩ := read_eq_ok_iff.mp hread
    refine ⟨hguess, hfirst, hprobe, fun hne => ?_⟩
    rw [← probe.eq_1, if_neg hne] at h
    obtain ⟨_, hread, -⟩ := bind_eq_ok.mp h
    exact (read_eq_ok_iff.mp hread).1
  · rintro ⟨hguess, hfirst, hprobe, hsecond⟩
    rw [secondOf, hguess.read, ok_bind]
    extract_lets first
    rw [hfirst.read, ok_bind]
    extract_lets probe
    have hprobe : zone.Shows probe := hprobe
    rw [hprobe.read, ok_bind]
    split
    · exact ⟨_, rfl⟩
    · rename_i hne
      extract_lets second
      have hsecond : zone.Shows second := hsecond hne
      rw [hsecond.read, ok_bind]
      split
      · exact ⟨_, rfl⟩
      · split <;> exact ⟨_, rfl⟩

/-! ## Away from the ends of the calendar -/

/-- No reading is four days away from what the clocks should show. -/
theorem shows_of_near (hlow : firstSecond + 4 * secondsPerDay ≤ shown)
    (hhigh : shown < endSecond - 4 * secondsPerDay) (hnear : (second - shown).natAbs ≤ 180000) :
    zone.Shows second := by
  have hbounded := zone.bounded second
  rw [Shows]
  simp only [firstSecond, endSecond, secondsPerDay] at hlow hhigh ⊢
  omega

theorem probe_near (zone : Zone) (shown : Int) (again : Bool) :
    (zone.probe shown again - shown).natAbs ≤ 180000 := by
  have hbounded := zone.bounded shown
  rw [probe]
  simp only [secondsPerDay]
  split
  · omega
  · split <;> omega

/-- What is four days from the ends of the calendar is found, first or again. -/
theorem finds_of_inner (hlow : firstSecond + 4 * secondsPerDay ≤ shown)
    (hhigh : shown < endSecond - 4 * secondsPerDay) : zone.Finds shown again where
  guess := shows_of_near hlow hhigh (by omega)
  first := by
    have hbounded := zone.bounded shown
    exact shows_of_near hlow hhigh (by omega)
  probe := shows_of_near hlow hhigh (zone.probe_near shown again)
  second := fun _ => by
    have hbounded := zone.bounded (zone.probe shown again)
    exact shows_of_near hlow hhigh (by omega)

/-! ## Clocks that are never set -/

section Fixed

variable {h : ahead.natAbs < 93600}

@[simp] theorem ahead_fixed : (fixed ahead h).ahead second = ahead := rfl

theorem probe_fixed : (fixed ahead h).probe shown again =
    if again then shown - ahead + secondsPerDay else shown - ahead - secondsPerDay := by
  simp only [probe, ahead_fixed, ne_eq, not_true_eq_false, if_false]

/-- Clocks that are always ahead by the same find a second of the calendar if the calendar also has
the one that they show then, and the same a day before, or a day after if it is asked for again. -/
theorem finds_fixed_iff : (fixed ahead h).Finds shown again ↔
    (firstSecond ≤ shown + ahead ∧ shown + ahead < endSecond) ∧
    (firstSecond ≤ shown ∧ shown < endSecond) ∧
    if again then shown + secondsPerDay < endSecond else firstSecond ≤ shown - secondsPerDay := by
  have hends : (fixed ahead h).Shows ((fixed ahead h).probe shown again) ↔
      firstSecond ≤ (if again then shown + secondsPerDay else shown - secondsPerDay) ∧
        (if again then shown + secondsPerDay else shown - secondsPerDay) < endSecond := by
    rw [probe_fixed, Shows, ahead_fixed]
    cases again
    · simp only [Bool.false_eq_true, if_false]
      omega
    · simp only [if_true]
      omega
  constructor
  · rintro ⟨hguess, hfirst, hprobe, -⟩
    rw [hends] at hprobe
    simp only [Shows, ahead_fixed] at hguess hfirst
    refine ⟨hguess, by omega, ?_⟩
    cases again
    · exact hprobe.1
    · exact hprobe.2
  · rintro ⟨hguess, hfirst, hday⟩
    refine ⟨hguess, ?_, hends.mpr ?_, fun hne => absurd rfl hne⟩
    · simp only [Shows, ahead_fixed]
      omega
    · simp only [secondsPerDay] at hday ⊢
      cases again
      · simp only [Bool.false_eq_true, if_false] at hday ⊢
        omega
      · simp only [if_true] at hday ⊢
        omega

/-- Clocks that are always ahead by the same show what is found. -/
theorem secondOf_fixed (hfinds : (fixed ahead h).Finds shown again) :
    (fixed ahead h).secondOf shown again = .ok (shown - ahead) := by
  rw [secondOf, hfinds.guess.read, ok_bind]
  extract_lets first
  rw [hfinds.first.read, ok_bind]
  extract_lets probe
  have hprobe : (fixed ahead h).Shows probe := hfinds.probe
  rw [hprobe.read, ok_bind]
  exact if_pos rfl

end Fixed

/-! ## What clocks show at an instant -/

/-- Clocks of universal time show an instant as it is, if the calendar has the day before. -/
theorem exists_utc_moment? {micros : Int}
    (hfirst : Moment.firstMicro + Moment.microsPerDay ≤ micros) (hend : micros < Moment.endMicro) :
    ∃ m, utc.moment? micros = some m ∧ m.wall = micros ∧ m.offset = none := by
  have hday : (0 : Int) ≤ Moment.microsPerDay := Int.natCast_nonneg _
  obtain ⟨m, hm, hwall, hoffset⟩ := Moment.exists_ofWall? (by omega) hend
  have hsecond := Int.mul_fdiv_add_fmod micros 1000000
  have hlow := Int.fmod_nonneg_of_pos micros (by decide : (0 : Int) < 1000000)
  have hhigh := Int.fmod_lt_of_pos micros (by decide : (0 : Int) < 1000000)
  rw [Moment.firstMicro, Moment.microsPerDay, Moment.epochOrdinal] at hfirst
  rw [Moment.endMicro, Moment.microsPerDay, Moment.epochOrdinal, Day.lastOrdinal] at hend
  have hshows : ∀ second, firstSecond ≤ second → second < endSecond →
      utc.read second = .ok 0 := fun second hlow hhigh =>
    Shows.read ⟨by rwa [utc, ahead_fixed, Int.add_zero], by rwa [utc, ahead_fixed, Int.add_zero]⟩
  have hnow := hshows (micros.fdiv 1000000) (by rw [firstSecond]; omega) (by rw [endSecond]; omega)
  have hbefore := hshows (micros.fdiv 1000000 - secondsPerDay)
    (by rw [firstSecond, secondsPerDay]; omega) (by rw [endSecond, secondsPerDay]; omega)
  refine ⟨{ m with fold := false }, ?_, hwall, hoffset⟩
  simp [moment?, hnow, hbefore, Except.toOption, hm]

end Zone

/-! ## Moments -/

namespace Moment

variable {zone : Zone} {m : Moment}

/-- A moment of the clocks of a place whose second is not found. -/
def Unplaced (zone : Zone) (m : Moment) : Prop :=
  m.offset = none ∧ ¬ zone.Finds m.wallSecond m.fold

theorem wallSecond_eq (m : Moment) :
    m.wallSecond = (m.day.ordinal - epochOrdinal) * secondsPerDay +
      ((m.time.hour * 60 + m.time.minute) * 60 + m.time.second : Nat) := by
  have := m.time.microsecond_lt
  rw [wallSecond, Int.fdiv_eq_ediv_of_nonneg _ (by decide), wall, TimeOfDay.micros, microsPerDay,
    secondsPerDay]
  omega

/-- Only moments within four days of the ends of the calendar are not found. -/
theorem Unplaced.near_end (h : m.Unplaced zone) :
    m.wallSecond < firstSecond + 4 * secondsPerDay ∨
      endSecond - 4 * secondsPerDay ≤ m.wallSecond := by
  refine Classical.byContradiction fun hinner => ?_
  rw [not_or, Int.not_lt, Int.not_le] at hinner
  exact h.2 (Zone.finds_of_inner hinner.1 hinner.2)

/-- By clocks of universal time, moments of the first day are not found, nor are those of the last
day that are asked for again. -/
theorem unplaced_utc_iff : m.Unplaced .utc ↔ m.offset = none ∧
    m.day.ordinal = if m.fold then Day.lastOrdinal else 1 := by
  have hday := m.day.ordinal_bounds
  have hhour := m.time.hour_lt
  have hminute := m.time.minute_lt
  have hsecond := m.time.second_lt
  have hshown := m.wallSecond_eq
  rw [Unplaced, Zone.utc, Zone.finds_fixed_iff]
  simp only [epochOrdinal, firstSecond, endSecond, secondsPerDay, Day.lastOrdinal, Int.add_zero]
    at hday hshown ⊢
  refine and_congr_right fun _ => ?_
  cases m.fold
  · simp only [Bool.false_eq_true, if_false]
    omega
  · simp only [if_true]
    omega

instance : Decidable (m.Unplaced .utc) :=
  decidable_of_iff _ unplaced_utc_iff.symm

end Moment

end Intake.Calendar
