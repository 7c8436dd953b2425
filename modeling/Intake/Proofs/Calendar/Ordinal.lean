import Intake.Calendar.Moment
import Intake.Proofs.Calendar.RoundTrip
import Mathlib.Algebra.GroupWithZero.Nat

/-!
# Counting days and microseconds

Days are counted from the first of the calendar, and microseconds from the epoch.  Both counts are
read back: the day with a given number has that number, and the clock that shows so many
microseconds after the epoch shows just that.

## Main statements

* `Day.exists_ofOrdinal?` — every number from the first to the last day is that of a day.
* `Day.ordinal_le` — no day has another number.
* `Moment.exists_ofWall?` — what a clock shows so many microseconds after the epoch.
-/

namespace Intake.Calendar

/-! ## Years -/

namespace Day

/-- The days of a year. -/
def yearLength (year : Nat) : Nat :=
  if isLeap year then 366 else 365

theorem beforeYear_succ {year : Nat} (h : 1 ≤ year) :
    beforeYear (year + 1) = beforeYear year + yearLength year := by
  obtain ⟨y, rfl⟩ := Nat.exists_eq_add_of_le' h
  have hfour : (y + 1) / 4 = y / 4 + if 4 ∣ y + 1 then 1 else 0 := Nat.succ_div
  have hcentury : (y + 1) / 100 = y / 100 + if 100 ∣ y + 1 then 1 else 0 := Nat.succ_div
  have hcycle : (y + 1) / 400 = y / 400 + if 400 ∣ y + 1 then 1 else 0 := Nat.succ_div
  have hle : y / 100 ≤ y / 4 := Nat.div_le_div_left (by decide) (by decide)
  have hdvd : 100 ∣ y + 1 → 4 ∣ y + 1 := fun h => Nat.dvd_trans (by decide) h
  have hdvd' : 400 ∣ y + 1 → 100 ∣ y + 1 := fun h => Nat.dvd_trans (by decide) h
  simp only [beforeYear, yearLength, isLeap, Nat.add_sub_cancel, hfour, hcentury, hcycle,
    ← Nat.dvd_iff_mod_eq_zero, ne_eq, decide_not, Bool.and_eq_true,
    Bool.or_eq_true, Bool.not_eq_true', decide_eq_false_iff_not, decide_eq_true_eq]
  generalize y / 4 = a at hle ⊢
  generalize y / 100 = b at hle ⊢
  generalize y / 400 = c
  by_cases h4 : 4 ∣ y + 1 <;> by_cases h100 : 100 ∣ y + 1 <;> by_cases h400 : 400 ∣ y + 1 <;>
    simp_all <;> omega

/-- The days before a year are those of so many average years, up to two days. -/
theorem beforeYear_near (y : Nat) :
    146097 * y ≤ 400 * beforeYear (y + 1) + 699 ∧ 400 * beforeYear (y + 1) ≤ 146097 * y + 396 := by
  have hfour := Nat.div_add_mod y 4
  have hfour' := Nat.mod_lt y (by decide : 4 > 0)
  have hcentury := Nat.div_add_mod y 100
  have hcentury' := Nat.mod_lt y (by decide : 100 > 0)
  have hcycle := Nat.div_add_mod y 400
  have hcycle' := Nat.mod_lt y (by decide : 400 > 0)
  have hle : y / 100 ≤ y / 4 := Nat.div_le_div_left (by decide) (by decide)
  rw [beforeYear, Nat.add_sub_cancel]
  generalize y / 4 = a at hfour hle ⊢
  generalize y / 100 = b at hcentury hle ⊢
  generalize y / 400 = c at hcycle ⊢
  omega

/-- The year that a number of a day falls into. -/
theorem yearOfOrdinal_spec {n : Nat} (h : 1 ≤ n) :
    1 ≤ yearOfOrdinal n ∧ beforeYear (yearOfOrdinal n) < n ∧
      n ≤ beforeYear (yearOfOrdinal n + 1) := by
  have hdiv := Nat.div_add_mod (400 * (n - 1)) 146097
  have hmod := Nat.mod_lt (400 * (n - 1)) (by decide : 146097 > 0)
  unfold yearOfOrdinal
  dsimp only
  generalize 400 * (n - 1) / 146097 = y at hdiv ⊢
  generalize 400 * (n - 1) % 146097 = r at hdiv hmod
  have hnear := beforeYear_near y
  split
  · rename_i hle
    cases y with
    | zero => omega
    | succ y =>
      have hbefore := beforeYear_near y
      rw [Nat.add_sub_cancel]
      omega
  · split
    · rename_i hlt
      have hafter : 146097 * (y + 2) ≤ 400 * beforeYear (y + 1 + 1 + 1) + 699 :=
        (beforeYear_near (y + 2)).1
      exact ⟨by omega, hlt, by omega⟩
    · rename_i hle hlt
      exact ⟨by omega, by omega, by omega⟩

/-! ## Months -/

theorem sum_monthLengths (year : Nat) : (monthLengths year).sum = yearLength year := by
  rw [monthLengths, yearLength]
  split <;> rfl

theorem beforeMonth_eq (year month : Nat) :
    beforeMonth year month = ((monthLengths year).take (month - 1)).sum := by
  rw [beforeMonth, List.sum_eq_foldl]

/-- The day of a year falls on a month that begins before it and has so many days. -/
theorem locate_spec {lengths : List Nat} {day : Nat} (month : Nat) (hpos : 1 ≤ day)
    (hle : day ≤ lengths.sum) : ∃ i, i < lengths.length ∧
      locate month lengths day = (month + i, day - (lengths.take i).sum) ∧
      (lengths.take i).sum < day ∧ day ≤ (lengths.take i).sum + lengths.getD i 0 := by
  induction lengths generalizing month day with
  | nil => simp at hle; omega
  | cons length lengths ih =>
    rw [locate]
    split
    · exact ⟨0, by simp, by simp, by simpa using Nat.lt_of_succ_le hpos, by simpa⟩
    · rename_i hlt
      rw [List.sum_cons] at hle
      obtain ⟨i, hi, hlocate, hlow, hhigh⟩ :=
        @ih (day - length) (month + 1) (by omega) (by omega)
      refine ⟨i + 1, by simpa using hi, ?_, ?_, ?_⟩
      · rw [hlocate, List.take_succ_cons, List.sum_cons]
        congr 1 <;> omega
      · rw [List.take_succ_cons, List.sum_cons]
        omega
      · rw [List.take_succ_cons, List.sum_cons, List.getD_cons_succ]
        omega

/-! ## Days -/

/-- The number of the last day. -/
def lastOrdinal : Nat := 3652059

theorem beforeYear_le {year : Nat} (h : year ≤ 9999) :
    beforeYear (year + 1) ≤ lastOrdinal := by
  have hlast : 365 * year + year / 4 - year / 100 + year / 400 ≤ 3652059 := by omega
  simpa [beforeYear, lastOrdinal] using hlast

/-- Every number from the first to the last day is that of a day. -/
theorem exists_ofOrdinal? {n : Nat} (hpos : 1 ≤ n) (hle : n ≤ lastOrdinal) :
    ∃ d, ofOrdinal? n = some d ∧ d.ordinal = n := by
  obtain ⟨hyear, hlow, hhigh⟩ := yearOfOrdinal_spec hpos
  have hyear' : yearOfOrdinal n ≤ 9999 := by
    by_contra hlt
    have := (beforeYear_near (yearOfOrdinal n - 1)).1
    rw [Nat.sub_add_cancel hyear] at this
    rw [lastOrdinal] at hle
    omega
  rw [beforeYear_succ hyear] at hhigh
  unfold ofOrdinal?
  dsimp only
  generalize yearOfOrdinal n = year at *
  obtain ⟨i, hi, hlocate, hbefore, hafter⟩ :=
    @locate_spec (monthLengths year) (n - beforeYear year) 1 (by omega)
      (by rw [sum_monthLengths]; omega)
  have hmonth : monthLength year (1 + i) = (monthLengths year).getD i 0 := by
    rw [monthLength, if_neg (by omega), Nat.add_sub_cancel_left]
  rw [hlocate]
  dsimp only
  rw [of?, dif_pos ⟨⟨hyear, hyear'⟩, by omega, by omega⟩]
  refine ⟨_, rfl, ?_⟩
  rw [ordinal, beforeMonth_eq, Nat.add_sub_cancel_left]
  dsimp only
  omega

/-- The part of a list up to some place, and what stands there. -/
theorem sum_take_add_getD_le (lengths : List Nat) (i : Nat) :
    (lengths.take i).sum + lengths.getD i 0 ≤ lengths.sum := by
  induction lengths generalizing i with
  | nil => simp
  | cons length lengths ih =>
    cases i with
    | zero => simp
    | succ i =>
      have := ih i
      rw [List.take_succ_cons, List.sum_cons, List.sum_cons, List.getD_cons_succ]
      omega

/-- No day has another number. -/
theorem ordinal_bounds (d : Day) : 1 ≤ d.ordinal ∧ d.ordinal ≤ lastOrdinal := by
  have hday := d.day_le
  have hsum := sum_take_add_getD_le (monthLengths d.year) (d.month - 1)
  have hyear := beforeYear_le d.year_le
  rw [beforeYear_succ d.year_pos, ← sum_monthLengths] at hyear
  have hmonth : monthLength d.year d.month ≤ (monthLengths d.year).getD (d.month - 1) 0 := by
    rw [monthLength]
    split
    · exact Nat.zero_le _
    · exact Nat.le_refl _
  have := d.day_pos
  rw [ordinal, beforeMonth_eq]
  omega

end Day

/-! ## Moments -/

/-- A time of day is read back from its microseconds. -/
theorem TimeOfDay.micros_ofMicros {n : Nat} (h : n < Moment.microsPerDay) :
    (TimeOfDay.ofMicros n).micros = n := by
  rw [Moment.microsPerDay] at h
  rw [micros, ofMicros]
  dsimp only
  omega

theorem TimeOfDay.micros_lt (t : TimeOfDay) : t.micros < Moment.microsPerDay := by
  have := t.hour_lt
  have := t.minute_lt
  have := t.second_lt
  have := t.microsecond_lt
  rw [micros, Moment.microsPerDay]
  omega

namespace Moment

/-- The microseconds from the epoch to the start of the first day. -/
def firstMicro : Int := (1 - (epochOrdinal : Int)) * microsPerDay

/-- The microseconds from the epoch to the end of the last day. -/
def endMicro : Int := (Day.lastOrdinal + 1 - (epochOrdinal : Int)) * microsPerDay

/-- What clocks show lies within the calendar. -/
theorem wall_bounds (m : Moment) : firstMicro ≤ m.wall ∧ m.wall < endMicro := by
  have hday := m.day.ordinal_bounds
  have htime := m.time.micros_lt
  rw [Day.lastOrdinal] at hday
  rw [microsPerDay] at htime
  rw [firstMicro, endMicro, wall, epochOrdinal, microsPerDay, Day.lastOrdinal]
  omega

/-- What a clock shows within the calendar is read back from its microseconds. -/
theorem exists_ofWall? {micros : Int} (hfirst : firstMicro ≤ micros) (hend : micros < endMicro) :
    ∃ m, ofWall? micros = some m ∧ m.wall = micros ∧ m.offset = none := by
  have hday : (0 : Int) < microsPerDay := by decide
  have hdiv := Int.mul_fdiv_add_fmod micros microsPerDay
  have hlow := Int.fmod_nonneg_of_pos micros hday
  have hhigh := Int.fmod_lt_of_pos micros hday
  rw [firstMicro, microsPerDay, epochOrdinal] at hfirst
  rw [endMicro, microsPerDay, epochOrdinal, Day.lastOrdinal] at hend
  rw [ofWall?]
  generalize hdays : micros.fdiv microsPerDay = days at hdiv ⊢
  generalize micros.fmod microsPerDay = rest at hdiv hlow hhigh ⊢
  have hrest : rest.toNat < microsPerDay := by omega
  rw [microsPerDay] at hdiv hhigh
  have hpos : ¬ days + epochOrdinal < 0 := by
    rw [epochOrdinal]
    omega
  obtain ⟨d, hd, hordinal⟩ := @Day.exists_ofOrdinal? (days + epochOrdinal).toNat
    (by rw [epochOrdinal]; omega) (by rw [epochOrdinal, Day.lastOrdinal]; omega)
  rw [if_neg hpos, hd]
  refine ⟨_, rfl, ?_, rfl⟩
  rw [wall, hordinal, TimeOfDay.micros_ofMicros hrest, microsPerDay]
  omega

/-- The microseconds of a second are those of the clock. -/
theorem wall_emod (m : Moment) : m.wall % 1000000 = m.time.microsecond := by
  have := m.time.microsecond_lt
  rw [wall, TimeOfDay.micros, microsPerDay]
  omega

end Moment

end Intake.Calendar
