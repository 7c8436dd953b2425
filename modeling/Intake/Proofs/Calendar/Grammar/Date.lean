import Intake.Proofs.Calendar.Grammar.Parts

/-!
# The grammar of written dates

A written date is a year of four digits, a month and a day of one or two, with hyphens between.  A
time may follow after a letter `T` or a space, and after a time blanks and a zone.  Such a form
says something if its day is in the calendar, its time in the day, and its zone less than a day
away from universal time.

## Main definitions

* `DateForm` — written dates.
* `DateForm.Real` — the forms whose fields there are.
* `DateForm.Denotes` — the moment that a form says.

## Main statements

* `readTrimmed?_chars`, `exists_form_of_readTrimmed?` — dates are read as they are written.
* `DateForm.Denotes.real`, `DateForm.Real.exists_denotes` — the forms that say something.
* `readMoment?_iff_grammar` — a text is read if it writes a form whose fields there are, and then
  as what that form says.
-/

namespace Intake.Calendar

open Text (isDigit)

/-! ## Dates -/

/-- A written time after a date: the mark between them, the time, blanks, and perhaps a zone. -/
structure TimeForm where
  mark : Char
  mark_mem : mark ∈ ['T', 't', ' ']
  clock : ClockForm
  blanks : List Char
  isBlank : ∀ c ∈ blanks, Text.isBlank c = true
  zone : Option ZoneForm

/-- A written date, perhaps with a time after it. -/
structure DateForm where
  year : DigitRun 4 4
  month : DigitRun 1 2
  day : DigitRun 1 2
  time : Option TimeForm

/-- The text of a time after a date. -/
def TimeForm.chars (time : TimeForm) : List Char :=
  time.mark :: (time.clock.chars ++ (time.blanks ++ zoneChars time.zone))

namespace DateForm

/-- The text of the time after a date, if there is one. -/
def timeChars (form : DateForm) : List Char :=
  form.time.elim [] TimeForm.chars

/-- The text of a date. -/
def chars (form : DateForm) : List Char :=
  form.year.chars ++ '-' :: (form.month.chars ++ '-' :: (form.day.chars ++ form.timeChars))

/-- A number of the time, zero where no time is written. -/
def clockField (form : DateForm) (field : ClockForm → Nat) : Nat :=
  form.time.elim 0 fun time => field time.clock

/-- The zone after the time, if there is one. -/
def zone (form : DateForm) : Option ZoneForm :=
  form.time.bind (·.zone)

/-- The fields of a written date are those of a day, a time of day and a zone less than a day away
from universal time. -/
structure Real (form : DateForm) : Prop where
  year_pos : 1 ≤ form.year.value
  year_le : form.year.value ≤ 9999
  day_pos : 1 ≤ form.day.value
  day_le : form.day.value ≤ monthLength form.year.value form.month.value
  hour_le : form.clockField (·.hour.value) ≤ 23
  minute_le : form.clockField (·.minute.value) ≤ 59
  second_le : form.clockField (·.second) ≤ 59
  zone_lt : ∀ zone ∈ form.zone, zone.minutes.natAbs < 24 * 60

/-- A moment has the fields of a written date, and an offset only where a zone is written.  It is
not marked as a second time. -/
structure Denotes (form : DateForm) (m : Moment) : Prop where
  year : m.day.year = form.year.value
  month : m.day.month = form.month.value
  day : m.day.day = form.day.value
  hour : m.time.hour = form.clockField (·.hour.value)
  minute : m.time.minute = form.clockField (·.minute.value)
  second : m.time.second = form.clockField (·.second)
  microsecond : m.time.microsecond = form.clockField (·.microsecond)
  offset : m.offset.map (·.minutes) = form.zone.map (·.minutes)
  fold : m.fold = false

/-- The day that a written date names. -/
def day? (form : DateForm) : Option Day :=
  Day.of? form.year.value form.month.value form.day.value

/-- The time of day that a written date names. -/
def time? (form : DateForm) : Option TimeOfDay :=
  TimeOfDay.of? (form.clockField (·.hour.value)) (form.clockField (·.minute.value))
    (form.clockField (·.second)) (form.clockField (·.microsecond))

/-- The moment that a written date names. -/
def moment? (form : DateForm) : Option Moment := do
  return ⟨← form.day?, ← form.time?, ← zoneOffset? form.zone, false⟩

end DateForm

/-! ## Dates are read as they are written -/

section Dates

variable {cs rest : List Char}

theorem isDigit_hyphen : isDigit '-' = false := by decide

theorem readDay?_chars (year : DigitRun 4 4) (month day : DigitRun 1 2) (h : NoDigitNext rest) :
    readDay? (year.chars ++ '-' :: (month.chars ++ '-' :: (day.chars ++ rest))) =
      (Day.of? year.value month.value day.value).map (·, rest) := by
  have hhyphen : ∀ rest, NoDigitNext ('-' :: rest) := fun _ => noDigitNext_cons isDigit_hyphen
  have hyear := fun rest => takeDigits?_chars year (.inr (hhyphen rest))
  have hmonth := fun rest => takeDigits?_chars month (.inr (hhyphen rest))
  have hday := takeDigits?_chars day (.inr h)
  simp only [readDay?, hyear, hmonth, hday, skip?_cons, Option.bind_eq_bind, Option.bind_some,
    DigitRun.value]
  exact (Option.map_eq_bind ..).symm

theorem exists_form_of_readDay? {d : Day} (h : readDay? cs = some (d, rest)) :
    ∃ (year : DigitRun 4 4) (month day : DigitRun 1 2),
      cs = year.chars ++ '-' :: (month.chars ++ '-' :: (day.chars ++ rest)) := by
  obtain ⟨⟨_, afterYear⟩, hyear, htail⟩ := Option.bind_eq_some_iff.mp h
  obtain ⟨monthOn, hhyphen, htail⟩ := Option.bind_eq_some_iff.mp htail
  obtain ⟨⟨_, afterMonth⟩, hmonth, htail⟩ := Option.bind_eq_some_iff.mp htail
  obtain ⟨dayOn, hhyphen', htail⟩ := Option.bind_eq_some_iff.mp htail
  obtain ⟨⟨_, afterDay⟩, hday, htail⟩ := Option.bind_eq_some_iff.mp htail
  obtain ⟨d, -, hrest⟩ := Option.bind_eq_some_iff.mp htail
  obtain ⟨-, rfl⟩ := Prod.mk.inj (Option.some.inj hrest)
  obtain ⟨year, rfl, rfl⟩ := exists_run_of_takeDigits? hyear
  obtain rfl := skip?_eq_some_iff.mp hhyphen
  obtain ⟨month, rfl, rfl⟩ := exists_run_of_takeDigits? hmonth
  obtain rfl := skip?_eq_some_iff.mp hhyphen'
  obtain ⟨day, rfl, rfl⟩ := exists_run_of_takeDigits? hday
  exact ⟨year, month, day, rfl⟩

/-- What a zone starts with is no part of a time and no blank. -/
theorem zoneMark_apart {c : Char} (h : c ∈ ['Z', 'z', '+', '-']) :
    isDigit c = false ∧ Text.isBlank c = false ∧ c ≠ ':' ∧ c ≠ '.' := by
  simp only [List.mem_cons, List.not_mem_nil, or_false] at h
  rcases h with rfl | rfl | rfl | rfl <;> decide

/-- The blanks and the zone after a time go on with nothing that could belong to it. -/
theorem TimeForm.closesClock (time : TimeForm) :
    ClosesClock (time.blanks ++ zoneChars time.zone) := by
  have hblank : ∀ c, Text.isBlank c = true → isDigit c = false ∧ c ≠ ':' ∧ c ≠ '.' := by
    intro c hc
    refine ⟨Text.not_isDigit_of_isBlank hc, ?_, ?_⟩ <;> rintro rfl <;> revert hc <;> decide
  intro c hc
  rw [List.head?_append] at hc
  rcases hhead : time.blanks.head? with - | b
  · rw [hhead, Option.none_or] at hc
    obtain ⟨hdigit, -, hcolon, hpoint⟩ := zoneMark_apart (head?_zoneChars time.zone c hc)
    exact ⟨hdigit, hcolon, hpoint⟩
  · rw [hhead, Option.some_or] at hc
    obtain rfl := Option.some.inj hc
    exact hblank b (time.isBlank b (List.mem_of_mem_head? hhead))

/-- The blanks before a zone are all dropped, and nothing of the zone. -/
theorem TimeForm.dropWhile_isBlank (time : TimeForm) :
    (time.blanks ++ zoneChars time.zone).dropWhile Text.isBlank = zoneChars time.zone := by
  have hhead := head?_zoneChars time.zone
  rw [List.dropWhile_append_of_pos time.isBlank]
  cases hchars : zoneChars time.zone with
  | nil => rfl
  | cons c cs =>
    rw [hchars] at hhead
    rw [List.dropWhile_cons_of_neg]
    simp [(zoneMark_apart (hhead c rfl)).2.1]

theorem fractionMicros_eq (clock : ClockForm) :
    fractionMicros clock.fraction = clock.microsecond := by
  have hfill : min (6 - clock.fraction.length) 6 = 6 - min 6 clock.fraction.length := by omega
  rw [ClockForm.microsecond, List.take_append, List.take_replicate, hfill, fractionMicros,
    List.length_take]

theorem ClockForm.toTime?_said (clock : ClockForm) : clock.said.toTime? =
    TimeOfDay.of? clock.hour.value clock.minute.value clock.second clock.microsecond := by
  rw [ClockText.toTime?, ← fractionMicros_eq]
  rfl

/-- A date is read as it is written. -/
theorem readTrimmed?_chars (form : DateForm) : readTrimmed? form.chars = form.moment? := by
  have hnext : NoDigitNext form.timeChars := by
    have hmark : ∀ c ∈ ['T', 't', ' '], isDigit c = false := by
      intro c hc
      simp only [List.mem_cons, List.not_mem_nil, or_false] at hc
      rcases hc with rfl | rfl | rfl <;> decide
    rcases hform : form.time with - | time
    · simp [DateForm.timeChars, hform, noDigitNext_nil]
    · simpa [DateForm.timeChars, TimeForm.chars, hform] using
        noDigitNext_cons (hmark _ time.mark_mem)
  rw [readTrimmed?, DateForm.chars, readDay?_chars _ _ _ hnext, DateForm.moment?, DateForm.day?]
  cases Day.of? form.year.value form.month.value form.day.value with
  | none => rfl
  | some day =>
    rcases hform : form.time with - | time
    · simp [DateForm.timeChars, DateForm.time?, DateForm.zone, DateForm.clockField, hform]
      rfl
    · have hclock := ClockText.read?_chars time.clock time.closesClock
      have hmark : (time.mark = 'T' ∨ time.mark = 't') ∨ time.mark = ' ' := by
        simpa [or_assoc] using time.mark_mem
      simp [DateForm.timeChars, TimeForm.chars, DateForm.time?, DateForm.zone, DateForm.clockField,
        hform, readTimeAndOffset?, hclock, hmark, ClockForm.toTime?_said, time.dropWhile_isBlank,
        readOffset?_zoneChars, Option.bind_assoc]

theorem exists_form_of_readTimeAndOffset? {said : TimeOfDay × Option Offset}
    (h : readTimeAndOffset? cs = some said) :
    ∃ (clock : ClockForm) (blanks : List Char) (zone : Option ZoneForm),
      (∀ c ∈ blanks, Text.isBlank c = true) ∧ cs = clock.chars ++ (blanks ++ zoneChars zone) := by
  obtain ⟨⟨said, rest⟩, hclock, htail⟩ := Option.bind_eq_some_iff.mp h
  obtain ⟨time, -, htail⟩ := Option.bind_eq_some_iff.mp htail
  obtain ⟨offset, hoffset, -⟩ := Option.bind_eq_some_iff.mp htail
  obtain ⟨clock, -, rfl⟩ := ClockText.exists_form_of_read? hclock
  obtain ⟨zone, hzone⟩ := exists_form_of_readOffset? hoffset
  refine ⟨clock, rest.takeWhile Text.isBlank, zone, fun c => List.mem_takeWhile_imp, ?_⟩
  rw [← hzone, List.takeWhile_append_dropWhile]

theorem exists_form_of_readTrimmed? {m : Moment} (h : readTrimmed? cs = some m) :
    ∃ form : DateForm, form.chars = cs := by
  obtain ⟨⟨d, rest⟩, hday, htail⟩ := Option.bind_eq_some_iff.mp h
  obtain ⟨year, month, day, rfl⟩ := exists_form_of_readDay? hday
  rcases rest with - | ⟨mark, rest⟩
  · exact ⟨⟨year, month, day, none⟩, rfl⟩
  · dsimp only at htail
    split at htail
    · rename_i hmark
      obtain ⟨said, htime, -⟩ := Option.bind_eq_some_iff.mp htail
      obtain ⟨clock, blanks, zone, hblanks, rfl⟩ := exists_form_of_readTimeAndOffset? htime
      have hmem : mark ∈ ['T', 't', ' '] := by simpa [or_assoc] using hmark
      exact ⟨⟨year, month, day, some ⟨mark, hmem, clock, blanks, hblanks, zone⟩⟩, rfl⟩
    · cases htail

end Dates

/-! ## What a written date says -/

theorem Day.of?_eq_some_iff {year month day : Nat} {d : Day} :
    Day.of? year month day = some d ↔ d.year = year ∧ d.month = month ∧ d.day = day := by
  constructor
  · rw [Day.of?]
    split
    · rintro ⟨⟩
      exact ⟨rfl, rfl, rfl⟩
    · rintro ⟨⟩
  · rintro ⟨rfl, rfl, rfl⟩
    exact d.of?_self

theorem TimeOfDay.of?_eq_some_iff {hour minute second microsecond : Nat} {t : TimeOfDay} :
    TimeOfDay.of? hour minute second microsecond = some t ↔
      t.hour = hour ∧ t.minute = minute ∧ t.second = second ∧ t.microsecond = microsecond := by
  constructor
  · rw [TimeOfDay.of?]
    split
    · rintro ⟨⟩
      exact ⟨rfl, rfl, rfl, rfl⟩
    · rintro ⟨⟩
  · rintro ⟨rfl, rfl, rfl, rfl⟩
    exact t.of?_self

theorem Offset.of?_eq_some_iff {minutes : Int} {offset : Offset} :
    Offset.of? minutes = some offset ↔ offset.minutes = minutes := by
  constructor
  · rw [Offset.of?]
    split
    · rintro ⟨⟩
      rfl
    · rintro ⟨⟩
  · rintro rfl
    exact dif_pos offset.bounded

theorem zoneOffset?_eq_some_iff {zone : Option ZoneForm} {offset : Option Offset} :
    zoneOffset? zone = some offset ↔ offset.map (·.minutes) = zone.map (·.minutes) := by
  cases zone with
  | none => cases offset <;> simp [zoneOffset?]
  | some zone => cases offset <;> simp [zoneOffset?, Offset.of?_eq_some_iff]

namespace DateForm

variable {form : DateForm} {m : Moment}

theorem moment?_eq_some_iff : form.moment? = some m ↔ form.Denotes m := by
  have hparts : form.moment? = some m ↔ form.day? = some m.day ∧ form.time? = some m.time ∧
      zoneOffset? form.zone = some m.offset ∧ m.fold = false := by
    simp only [moment?, Option.bind_eq_bind, Option.bind_eq_some_iff, Option.pure_def,
      Option.some.injEq]
    constructor
    · rintro ⟨day, hday, time, htime, offset, hoffset, rfl⟩
      exact ⟨hday, htime, hoffset, rfl⟩
    · rintro ⟨hday, htime, hoffset, hfold⟩
      exact ⟨m.day, hday, m.time, htime, m.offset, hoffset, by rw [← hfold]⟩
  rw [hparts, day?, time?, Day.of?_eq_some_iff, TimeOfDay.of?_eq_some_iff, zoneOffset?_eq_some_iff]
  constructor
  · rintro ⟨⟨hyear, hmonth, hday⟩, ⟨hhour, hminute, hsecond, hmicro⟩, hoffset, hfold⟩
    exact ⟨hyear, hmonth, hday, hhour, hminute, hsecond, hmicro, hoffset, hfold⟩
  · rintro ⟨hyear, hmonth, hday, hhour, hminute, hsecond, hmicro, hoffset, hfold⟩
    exact ⟨⟨hyear, hmonth, hday⟩, ⟨hhour, hminute, hsecond, hmicro⟩, hoffset, hfold⟩

theorem Denotes.real (h : form.Denotes m) : form.Real where
  year_pos := h.year ▸ m.day.year_pos
  year_le := h.year ▸ m.day.year_le
  day_pos := h.day ▸ m.day.day_pos
  day_le := h.year ▸ h.month ▸ h.day ▸ m.day.day_le
  hour_le := h.hour ▸ Nat.le_of_lt_succ m.time.hour_lt
  minute_le := h.minute ▸ Nat.le_of_lt_succ m.time.minute_lt
  second_le := h.second ▸ Nat.le_of_lt_succ m.time.second_lt
  zone_lt := by
    intro zone hzone
    have hoffset := h.offset
    rw [hzone, Option.map_some] at hoffset
    obtain ⟨offset, -, hminutes⟩ := Option.map_eq_some_iff.mp hoffset
    exact hminutes ▸ offset.bounded

/-- The microseconds of a written time are less than a second. -/
theorem microsecond_lt (form : DateForm) : form.clockField (·.microsecond) < 1000000 := by
  rw [clockField]
  cases form.time with
  | none => decide
  | some time =>
    have := fractionMicros_lt time.clock.fraction
    rwa [fractionMicros_eq] at this

theorem Real.exists_denotes (h : form.Real) : ∃ m, form.Denotes m := by
  obtain ⟨offset, hoffset⟩ : ∃ offset : Option Offset,
      offset.map (·.minutes) = form.zone.map (·.minutes) := by
    cases hzone : form.zone with
    | none => exact ⟨none, rfl⟩
    | some zone => exact ⟨some ⟨zone.minutes, h.zone_lt zone hzone⟩, rfl⟩
  let day : Day := ⟨_, _, _, h.year_pos, h.year_le, h.day_pos, h.day_le⟩
  let time : TimeOfDay := ⟨_, _, _, _, Nat.lt_succ_of_le h.hour_le, Nat.lt_succ_of_le h.minute_le,
    Nat.lt_succ_of_le h.second_le, form.microsecond_lt⟩
  exact ⟨⟨day, time, offset, false⟩, rfl, rfl, rfl, rfl, rfl, rfl, rfl, hoffset, rfl⟩

end DateForm

/-- What is read of a text, white space around it aside, is what the text writes in the grammar of
dates, and nothing is read of a text that is not in the grammar or has a field out of range. -/
theorem readMoment?_iff_grammar (text : String) :
    ((readMoment? text).isSome ↔
      ∃ form : DateForm, form.chars = Text.trimChars text.toList ∧ form.Real) ∧
    ∀ m, readMoment? text = some m ↔
      ∃ form : DateForm, form.chars = Text.trimChars text.toList ∧ form.Denotes m := by
  have hread : ∀ m, readMoment? text = some m ↔
      ∃ form : DateForm, form.chars = Text.trimChars text.toList ∧ form.Denotes m := by
    intro m
    rw [readMoment?]
    constructor
    · intro h
      obtain ⟨form, hform⟩ := exists_form_of_readTrimmed? h
      rw [← hform, readTrimmed?_chars] at h
      exact ⟨form, hform, DateForm.moment?_eq_some_iff.mp h⟩
    · rintro ⟨form, hform, hdenotes⟩
      rw [← hform, readTrimmed?_chars]
      exact DateForm.moment?_eq_some_iff.mpr hdenotes
  refine ⟨?_, hread⟩
  rw [Option.isSome_iff_exists]
  constructor
  · rintro ⟨m, hm⟩
    obtain ⟨form, hform, hdenotes⟩ := (hread m).mp hm
    exact ⟨form, hform, hdenotes.real⟩
  · rintro ⟨form, hform, hreal⟩
    obtain ⟨m, hdenotes⟩ := hreal.exists_denotes
    exact ⟨m, (hread m).mpr ⟨form, hform, hdenotes⟩⟩

end Intake.Calendar
