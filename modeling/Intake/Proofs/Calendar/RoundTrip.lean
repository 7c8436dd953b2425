import Intake.Calendar.Reading
import Intake.Calendar.Written
import Intake.Proofs.Text.Blank
import Intake.Proofs.Text.Digits

/-!
# Canonical dates and times read back

A date or a time in canonical form is read as what it says: the day itself, and the time of day cut
to the precision it was written to.

## Main definitions

* `TimeOfDay.cut` — a time of day without what is finer than a precision.

## Main statements

* `readMoment?_writeDate`, `readMoment?_writeStamp` — dates, and dates with times.
* `ClockText.find?_writeClock` — times alone.
-/

namespace Intake.Calendar

open Text (digitsValue paddedChars padded digitsValue_paddedChars length_paddedChars
  isDigit_of_mem_paddedChars toList_padded)

/-! ## Fields -/

/-- A run of digits of the full width is split off, whatever follows. -/
theorem takeDigits?_append {atLeast atMost : Nat} {run rest : List Char}
    (hrun : ∀ c ∈ run, c.isDigit = true) (hlength : run.length = atMost)
    (hle : atLeast ≤ atMost) : takeDigits? atLeast atMost (run ++ rest) = some (run, rest) := by
  have htake : ((run ++ rest).take atMost).takeWhile Text.isDigit = run := by
    rw [List.take_append_of_le_length (Nat.le_of_eq hlength.symm),
      List.take_of_length_le (Nat.le_of_eq hlength)]
    exact List.takeWhile_eq_self_iff.mpr fun c hc => Text.isDigit_of_isDigit (hrun c hc)
  rw [takeDigits?, htake, hlength, if_pos hle, ← hlength, List.drop_left]

/-- A number in a field of its width is read back, whatever follows. -/
theorem takeDigits?_paddedChars {atLeast width n : Nat} {rest : List Char} (hwidth : 0 < width)
    (hle : atLeast ≤ width) (hn : n < 10 ^ width) :
    takeDigits? atLeast width (paddedChars width n ++ rest) = some (paddedChars width n, rest) :=
  takeDigits?_append (fun _ => isDigit_of_mem_paddedChars) (length_paddedChars hwidth hn) hle

theorem takeDigits?_paddedChars_self {atLeast width n : Nat} (hwidth : 0 < width)
    (hle : atLeast ≤ width) (hn : n < 10 ^ width) :
    takeDigits? atLeast width (paddedChars width n) = some (paddedChars width n, []) := by
  rw [← takeDigits?_paddedChars hwidth hle hn, List.append_nil]

/-- A field of two digits is read back, whatever follows. -/
theorem takeDigits?_two {n : Nat} (hn : n < 100) (rest : List Char) :
    takeDigits? 1 2 (paddedChars 2 n ++ rest) = some (paddedChars 2 n, rest) :=
  takeDigits?_paddedChars (by decide) (by decide) hn

theorem takeDigits?_two_self {n : Nat} (hn : n < 100) :
    takeDigits? 1 2 (paddedChars 2 n) = some (paddedChars 2 n, []) :=
  takeDigits?_paddedChars_self (by decide) (by decide) hn

@[simp] theorem skip?_cons (c : Char) (cs : List Char) : skip? c (c :: cs) = some cs := by
  simp [skip?]

/-! ## Dates -/

theorem monthLength_le (year month : Nat) : monthLength year month ≤ 31 := by
  rw [monthLength]
  split
  · simp
  · rw [List.getD_eq_getElem?_getD]
    cases h : (monthLengths year)[month - 1]? with
    | none => simp
    | some length =>
      have := List.mem_of_getElem? h
      simp only [monthLengths, List.mem_cons, List.not_mem_nil, or_false] at this
      simp only [Option.getD_some]
      split at this <;> omega

/-- A month that has a day is one of twelve. -/
theorem Day.month_le (d : Day) : d.month ≤ 12 := by
  have hpos := Nat.le_trans d.day_pos d.day_le
  rw [monthLength] at hpos
  split at hpos
  · omega
  · have : d.month - 1 < (monthLengths d.year).length := by
      refine Nat.lt_of_not_le fun h => ?_
      rw [List.getD_eq_getElem?_getD, List.getElem?_eq_none h] at hpos
      simp at hpos
    simp only [monthLengths, List.length_cons, List.length_nil] at this
    omega

@[simp] theorem Day.of?_self (d : Day) : Day.of? d.year d.month d.day = some d := by
  have h : (1 ≤ d.year ∧ d.year ≤ 9999) ∧ 1 ≤ d.day ∧ d.day ≤ monthLength d.year d.month :=
    ⟨⟨d.year_pos, d.year_le⟩, d.day_pos, d.day_le⟩
  simp [Day.of?, h]

theorem toList_writeDate (d : Day) : (writeDate d).toList =
    paddedChars 4 d.year ++ '-' :: (paddedChars 2 d.month ++ '-' :: paddedChars 2 d.day) := by
  simp [writeDate, toList_padded]

/-- A written date is read back, whatever follows. -/
theorem readDay?_writeDate (d : Day) (rest : List Char) :
    readDay? ((writeDate d).toList ++ rest) = some (d, rest) := by
  have hyear : ∀ rest, takeDigits? 4 4 (paddedChars 4 d.year ++ rest) =
      some (paddedChars 4 d.year, rest) := fun _ =>
    takeDigits?_paddedChars (by decide) (by decide) (Nat.lt_of_le_of_lt d.year_le (by decide))
  have hmonth : d.month < 100 := Nat.lt_of_le_of_lt d.month_le (by decide)
  have hday : d.day < 100 :=
    Nat.lt_of_le_of_lt (Nat.le_trans d.day_le (monthLength_le _ _)) (by decide)
  simp only [toList_writeDate, List.append_assoc, List.cons_append]
  simp [readDay?, hyear, takeDigits?_two hmonth, takeDigits?_two hday, digitsValue_paddedChars]

/-! ## Times -/

theorem TimeOfDay.cut_microsecond_lt (t : TimeOfDay) : t.microsecond / 1000 * 1000 < 1000000 :=
  Nat.lt_of_le_of_lt (Nat.div_mul_le_self _ _) t.microsecond_lt

/-- A time of day without what is finer than a precision. -/
def TimeOfDay.cut (t : TimeOfDay) (precision : Precision) : TimeOfDay :=
  match precision with
  | .minute =>
    ⟨t.hour, t.minute, 0, 0, t.hour_lt, t.minute_lt, midnight.second_lt, midnight.microsecond_lt⟩
  | .second =>
    ⟨t.hour, t.minute, t.second, 0, t.hour_lt, t.minute_lt, t.second_lt, midnight.microsecond_lt⟩
  | .millisecond =>
    ⟨t.hour, t.minute, t.second, t.microsecond / 1000 * 1000, t.hour_lt, t.minute_lt, t.second_lt,
      t.cut_microsecond_lt⟩

/-- What is left of a written time of day, read field by field. -/
def clockOf (hour minute second millisecond : Nat) (precision : Precision) : ClockText where
  hour := hour
  minute := minute
  second := if precision = .minute then 0 else second
  fraction := if precision = .millisecond then paddedChars 3 millisecond else []

theorem toList_writeClock (hour minute second millisecond : Nat) (precision : Precision) :
    (writeClock hour minute second millisecond precision).toList =
      paddedChars 2 hour ++ ':' :: (paddedChars 2 minute ++
        match precision with
        | .minute => []
        | .second => ':' :: paddedChars 2 second
        | .millisecond => ':' :: (paddedChars 2 second ++ '.' :: paddedChars 3 millisecond)) := by
  cases precision <;> simp [writeClock, toList_padded]

/-- A written time is read back as far as it was written. -/
theorem ClockText.read?_writeClock {hour minute second millisecond : Nat} (hhour : hour < 100)
    (hminute : minute < 100) (hsecond : second < 100) (hmilli : millisecond < 1000)
    (precision : Precision) :
    ClockText.read? (writeClock hour minute second millisecond precision).toList =
      some (clockOf hour minute second millisecond precision, []) := by
  have hlength : (paddedChars 3 millisecond).length = 3 := length_paddedChars (by decide) hmilli
  have hfraction : takeDigits? 1 3 (paddedChars 3 millisecond) =
      some (paddedChars 3 millisecond, []) :=
    takeDigits?_paddedChars_self (by decide) (by decide) hmilli
  rw [toList_writeClock]
  cases precision <;>
    simp [ClockText.read?, readSeconds, skip?, takeDigits?_two hhour, takeDigits?_two hminute,
      takeDigits?_two_self hminute, takeDigits?_two hsecond, takeDigits?_two_self hsecond,
      hfraction, hlength, digitsValue_paddedChars, clockOf]

/-- Three digits of a fraction are milliseconds. -/
theorem fractionMicros_paddedChars {millisecond : Nat} (h : millisecond < 1000) :
    fractionMicros (paddedChars 3 millisecond) = millisecond * 1000 := by
  have hlength : (paddedChars 3 millisecond).length = 3 := length_paddedChars (by decide) h
  have htake : (paddedChars 3 millisecond).take 6 = paddedChars 3 millisecond :=
    List.take_of_length_le (by omega)
  have hvalue := digitsValue_paddedChars 3 millisecond
  rw [Text.digitsValue] at hvalue
  simp only [fractionMicros, htake, hlength, digitsValue, List.foldl_append, hvalue]
  simp [List.replicate, Text.digitValue?, Text.zeros]
  omega

/-- A fraction of a second is less than a second. -/
theorem fractionMicros_lt (fraction : List Char) : fractionMicros fraction < 1000000 := by
  have hlength : (fraction.take 6 ++ List.replicate (6 - (fraction.take 6).length) '0').length
      = 6 := by
    rw [List.length_append, List.length_replicate]
    have := List.length_take_le 6 fraction
    omega
  have := Text.digitsValue_lt (fraction.take 6 ++ List.replicate (6 - (fraction.take 6).length) '0')
  rwa [hlength] at this

/-- A time that was written to a precision is written the same again. -/
theorem writeClock_clockOf {hour minute second millisecond : Nat} (hmilli : millisecond < 1000)
    (precision : Precision) :
    let clock := clockOf hour minute second millisecond precision
    writeClock clock.hour clock.minute clock.second (fractionMicros clock.fraction / 1000 : Nat)
      precision = writeClock hour minute second millisecond precision := by
  cases precision <;> simp [clockOf, writeClock, fractionMicros_paddedChars hmilli]

theorem writeClock_ne_empty (hour minute second millisecond : Nat) (precision : Precision) :
    (writeClock hour minute second millisecond precision).toList ≠ [] := by
  simp [toList_writeClock]

/-- A written time by itself is found at once. -/
theorem ClockText.find?_writeClock {hour minute second millisecond : Nat} (hhour : hour < 100)
    (hminute : minute < 100) (hsecond : second < 100) (hmilli : millisecond < 1000)
    (precision : Precision) :
    ClockText.find? (writeClock hour minute second millisecond precision).toList =
      some (clockOf hour minute second millisecond precision) := by
  have hread := ClockText.read?_writeClock hhour hminute hsecond hmilli precision
  generalize (writeClock hour minute second millisecond precision).toList = cs at hread
  cases cs with
  | nil => simp [ClockText.read?, takeDigits?] at hread
  | cons c cs => simp [ClockText.find?, hread]

/-- The characters of a written time: digits, colons and a point. -/
theorem mem_writeClock {hour minute second millisecond : Nat} {precision : Precision} {c : Char}
    (h : c ∈ (writeClock hour minute second millisecond precision).toList) :
    c.isDigit = true ∨ c = ':' ∨ c = '.' := by
  rw [toList_writeClock] at h
  have hdigit : ∀ {width n : Nat}, c ∈ paddedChars width n → c.isDigit = true :=
    isDigit_of_mem_paddedChars
  cases precision <;> simp only [List.mem_append, List.mem_cons, List.not_mem_nil] at h <;>
    grind

/-! ## Moments -/

theorem TimeOfDay.millisecond_lt (t : TimeOfDay) : t.millisecond < 1000 := by
  have := t.microsecond_lt
  rw [TimeOfDay.millisecond]
  omega

theorem TimeOfDay.of?_self (t : TimeOfDay) :
    TimeOfDay.of? t.hour t.minute t.second t.microsecond = some t := by
  simp [TimeOfDay.of?, t.hour_lt, t.minute_lt, t.second_lt, t.microsecond_lt]

theorem toTime?_clockOf (t : TimeOfDay) (precision : Precision) :
    (clockOf t.hour t.minute t.second t.millisecond precision).toTime? =
      some (t.cut precision) := by
  rw [← TimeOfDay.of?_self (t.cut precision)]
  cases precision
  · rfl
  · rfl
  · have hmicros : fractionMicros (paddedChars 3 t.millisecond) = t.microsecond / 1000 * 1000 :=
      fractionMicros_paddedChars t.millisecond_lt
    rw [ClockText.toTime?, clockOf, if_pos rfl, hmicros]
    rfl

/-- A time cut to a precision is written to it as before. -/
theorem writeTime_cut (t : TimeOfDay) (precision : Precision) :
    writeTime (t.cut precision) precision = writeTime t precision := by
  cases precision <;> simp [writeTime, writeClock, TimeOfDay.cut, TimeOfDay.millisecond]

theorem not_isBlank_of_mem_writeTime {t : TimeOfDay} {precision : Precision} {c : Char}
    (h : c ∈ (writeTime t precision).toList) : Text.isBlank c = false := by
  rcases mem_writeClock h with h | rfl | rfl
  · exact Text.not_isBlank_of_isDigit h
  · decide
  · decide

theorem not_isBlank_of_mem_writeDate {d : Day} {c : Char} (h : c ∈ (writeDate d).toList) :
    Text.isBlank c = false := by
  have hdigit : ∀ {width n : Nat}, c ∈ paddedChars width n → Text.isBlank c = false :=
    fun h => Text.not_isBlank_of_isDigit (isDigit_of_mem_paddedChars h)
  have hhyphen : Text.isBlank '-' = false := by decide
  simp only [toList_writeDate, List.mem_append, List.mem_cons] at h
  grind

/-- A written date is read as the start of its day. -/
@[simp] theorem readMoment?_writeDate (d : Day) :
    readMoment? (writeDate d) = some (.startOf d) := by
  rw [readMoment?, Text.trimChars_of_forall fun c => not_isBlank_of_mem_writeDate]
  have := readDay?_writeDate d []
  rw [List.append_nil] at this
  simp [readTrimmed?, this]

theorem toList_writeStamp (m : Moment) (precision : Precision) :
    (writeStamp m precision).toList =
      (writeDate m.day).toList ++ ' ' :: (writeTime m.time precision).toList := by
  simp [writeStamp]

/-- A written date has no blank at either end, and neither has one with a time. -/
theorem trimChars_writeStamp (m : Moment) (precision : Precision) :
    Text.trimChars (writeStamp m precision).toList = (writeStamp m precision).toList := by
  have hdate : (writeDate m.day).toList ≠ [] := by simp [toList_writeDate]
  have htime : (writeTime m.time precision).toList ≠ [] := writeClock_ne_empty _ _ _ _ _
  rw [toList_writeStamp]
  apply Text.trimChars_eq_self
  · intro c hc
    rw [List.head?_append_of_ne_nil _ hdate] at hc
    exact not_isBlank_of_mem_writeDate (List.mem_of_mem_head? hc)
  · intro c hc
    rw [List.getLast?_append_of_ne_nil _ (by simp), List.getLast?_cons_of_ne_nil htime] at hc
    exact not_isBlank_of_mem_writeTime (List.mem_of_mem_getLast? hc)

/-- A date with a time is read as what was written, cut to the precision it was written to. -/
@[simp] theorem readMoment?_writeStamp (m : Moment) (precision : Precision) :
    readMoment? (writeStamp m precision) = some ⟨m.day, m.time.cut precision, none, false⟩ := by
  have hclock : ClockText.read? (writeTime m.time precision).toList =
      some (clockOf m.time.hour m.time.minute m.time.second m.time.millisecond precision, []) := by
    have := m.time.hour_lt
    have := m.time.minute_lt
    have := m.time.second_lt
    exact ClockText.read?_writeClock (by omega) (by omega) (by omega) m.time.millisecond_lt
      precision
  rw [readMoment?, trimChars_writeStamp, toList_writeStamp]
  simp [readTrimmed?, readDay?_writeDate, readTimeAndOffset?, hclock, toTime?_clockOf, readOffset?]

end Intake.Calendar
