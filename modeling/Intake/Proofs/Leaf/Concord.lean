import Intake.Proofs.Calendar.Grammar.Search
import Intake.Proofs.Leaf.Range

/-!
# Dates and times in concord

The rules for dates and times as text reduce one moment to different texts.  The rule for times of
day takes a way of its own where a text has no capital letter between date and time: it searches the
text.  It finds the time of the date there, so that all rules speak of the same moment.

## Main definitions

* `Value.GivesClock` — the values that stand for a time of day beside a date.

## Main statements

* `timeOfDay?_of_toMoment?` — the time of day that a value stands for is that of its moment.
* `readDateText_of_toMoment?`, `readTimeText_of_timeOfDay?`, `readStampText_of_toMoment?` — what the
  rules read.
* `Leaf.texts_of_date` — all rules speak of the same moment.
-/

namespace Intake

open Calendar (DateForm Moment Precision TimeOfDay ClockText Zone writeDate writeTime writeStamp
  readMoment?)

/-! ## The moment of a value -/

section Moments

variable {zone : Zone} {v nonEmpty : Value} {ctx : Context} {s : String} {m : Moment}
  {t : TimeOfDay} {precision : Precision}

/-- Only text has a time of day that is not looked up in its moment. -/
theorem timeOfDay?_of_ne_text (hv : ∀ s, v ≠ .text s) :
    timeOfDay? zone v = (toMoment? zone v).map (·.time) := by
  cases v with
  | text s => exact absurd rfl (hv s)
  | _ => rfl

/-- What stands for a moment is not the empty text. -/
theorem isEmptyText_of_toMoment? (h : toMoment? zone v = some m) : v.isEmptyText = false := by
  cases v with
  | text s =>
    refine String.isEmpty_eq_false_iff.mpr ?_
    rintro rfl
    cases h
  | _ => rfl

/-- A value that stands for a moment still does without the blanks around it. -/
theorem exists_trimInput (nonEmpty : Value) (hctx : ctx.Plain) (h : toMoment? zone v = some m) :
    ∃ w, trimInput nonEmpty v ctx = .ok w ∧ toMoment? zone w = some m := by
  have htrim : ∃ w, trimInput nonEmpty v ctx = .ok w := by
    cases v with
    | text s =>
      have hne : Text.trim s ≠ "" := by
        refine Text.trim_ne_empty fun hchars => ?_
        rw [toMoment?, readMoment?, hchars] at h
        cases h
      exact ⟨_, Outcome.map_eq_ok.mpr ⟨_, TextRule.parse_bare_eq_trim hctx hne, rfl⟩⟩
    | _ => exact ⟨_, rfl⟩
  obtain ⟨w, hw⟩ := htrim
  exact ⟨w, hw, (SpanKind.toMoment?_of_trimInput hw).trans h⟩

/-- Trimming and reading a date, with the type of a rule in force. -/
theorem readTrimmed_of_toMoment? (type : String) (write : Moment → String) (hctx : ctx.Plain)
    (h : toMoment? zone v = some m) :
    (do
      let inner := ctx.overriding (ctx.expected type)
      let m ← readDate zone (← trimInput nonEmpty v inner) inner
      return write m : Outcome String) = .ok (write m) := by
  have hinner := hctx.overriding_expected type
  obtain ⟨w, hw, hmoment⟩ := exists_trimInput nonEmpty hinner h
  dsimp only
  rw [hw, Outcome.ok_bind, readDate_of_toMoment? hinner hmoment]
  rfl

theorem readDateText_of_toMoment? (hctx : ctx.Plain) (h : toMoment? zone v = some m) :
    readDateText zone nonEmpty v ctx = .ok (writeDate m.day) :=
  readTrimmed_of_toMoment? "dateString" (fun m => writeDate m.day) hctx h

theorem readStampText_of_toMoment? (hctx : ctx.Plain) (h : toMoment? zone v = some m) :
    readStampText zone precision nonEmpty v ctx = .ok (writeStamp m precision) :=
  readTrimmed_of_toMoment? "timestamp" (writeStamp · precision) hctx h

/-- A written time whose fields are in range is written out. -/
theorem writeClockText_of_toTime? {expected : Value} {clock : ClockText}
    (h : clock.toTime? = some t) :
    writeClockText precision ctx expected clock = .ok (writeTime t precision) := by
  obtain ⟨hhour, hminute, hsecond, hmicro⟩ := Calendar.TimeOfDay.of?_eq_some_iff.mp h
  refine writeClockText_eq_ok.mpr ⟨?_, ?_⟩
  · rw [← hhour, ← hminute, ← hsecond]
    exact ⟨Nat.le_of_lt_succ t.hour_lt, Nat.le_of_lt_succ t.minute_lt,
      Nat.le_of_lt_succ t.second_lt⟩
  · rw [← hhour, ← hminute, ← hsecond, ← hmicro]
    rfl

/-- The time of day that a value stands for is what is read of it. -/
theorem readTimeText_of_timeOfDay? (hctx : ctx.Plain) (h : timeOfDay? zone v = some t) :
    readTimeText zone precision nonEmpty v ctx = .ok (writeTime t precision) := by
  have hinner := hctx.overriding_expected "timeString"
  have hmoment : ∀ m, toMoment? zone v = some m → (do
      let m ← readDate zone v (ctx.overriding (ctx.expected "timeString"))
      return writeTime m.time precision : Outcome String) = .ok (writeTime m.time precision) := by
    intro m hm
    rw [readDate_of_toMoment? hinner hm]
    rfl
  cases v with
  | text s =>
    rw [timeOfDay?] at h
    rw [readTimeText]
    split at h
    · rename_i hmarked
      obtain ⟨m, hm, rfl⟩ := Option.map_eq_some_iff.mp h
      rw [if_pos hmarked]
      exact hmoment m hm
    · obtain ⟨clock, hclock, htime⟩ := Option.bind_eq_some_iff.mp h
      have hne : Text.trim s ≠ "" := by
        refine Text.trim_ne_empty fun hchars => ?_
        rw [hchars] at hclock
        cases hclock
      rw [if_neg ‹_›, TextRule.parse_bare_eq_trim hinner hne, Outcome.ok_bind, Text.toList_trim,
        hclock]
      exact writeClockText_of_toTime? htime
  | _ =>
    rw [timeOfDay?_of_ne_text (by simp)] at h
    obtain ⟨m, hm, rfl⟩ := Option.map_eq_some_iff.mp h
    exact hmoment m hm

/-! ## The time of day of a moment -/

/-- The values that stand for a time of day beside a date: all that stand for a moment but the texts
of a date alone. -/
def Value.GivesClock : Value → Prop
  | .moment _ | .day _ | .number _ => True
  | .text s => ∃ form : DateForm, form.chars = Text.trimChars s.toList ∧ form.time.isSome
  | _ => False

/-- The time that is found in a written date is the one that is read of it. -/
theorem timeOfDay?_of_form {form : DateForm} (hchars : form.chars = Text.trimChars s.toList)
    (htime : form.time.isSome) (h : readMoment? s = some m) :
    timeOfDay? zone (.text s) = some m.time := by
  obtain ⟨time, htime⟩ := Option.isSome_iff_exists.mp htime
  rw [timeOfDay?]
  split
  · rw [h]
    rfl
  · have hfind : ClockText.find? form.chars = some time.clock.said :=
      Calendar.ClockText.find?_eq_some_iff.mpr ⟨_, _, _, DateForm.firstClock htime, rfl⟩
    rw [readMoment?, ← hchars, Calendar.readTrimmed?_chars, DateForm.moment?_eq_some_iff] at h
    have hfield : ∀ field, form.clockField field = field time.clock := by
      intro field
      rw [DateForm.clockField, htime]
      rfl
    rw [← hchars, hfind, Option.bind_some, Calendar.ClockForm.toTime?_said,
      Calendar.TimeOfDay.of?_eq_some_iff]
    exact ⟨h.hour.trans (hfield _), h.minute.trans (hfield _), h.second.trans (hfield _),
      h.microsecond.trans (hfield _)⟩

/-- The time of day that a value stands for is that of its moment. -/
theorem timeOfDay?_of_toMoment? (hv : v.GivesClock) (h : toMoment? zone v = some m) :
    timeOfDay? zone v = some m.time := by
  cases v with
  | text s =>
    obtain ⟨form, hchars, htime⟩ := hv
    exact timeOfDay?_of_form hchars htime h
  | _ =>
    rw [timeOfDay?_of_ne_text (by simp), h]
    rfl

end Moments

/-! ## Leaves -/

namespace Leaf

/-- What is accepted as a date is accepted by the rules for dates and times as text, if it gives a
time of day beside the date, and all of them write the same moment. -/
theorem texts_of_date {setting : Setting} {v w : Value} {ctx : Context} (precision : Precision)
    (nonEmpty : Value) (hctx : ctx.Plain) (hv : v.GivesClock)
    (h : (date {}).parse setting v ctx = .ok w) :
    ∃ m, w = .moment m ∧
      (timeString { nonEmpty } precision).parse setting v ctx =
        .ok (.text (writeTime m.time precision)) ∧
      (dateString { nonEmpty }).parse setting v ctx = .ok (.text (writeDate m.day)) ∧
      (timestamp { nonEmpty } precision).parse setting v ctx =
        .ok (.text (writeDate m.day ++ " " ++ writeTime m.time precision)) := by
  obtain ⟨m, hm, rfl⟩ := Outcome.map_eq_ok.mp h
  obtain ⟨_, hread, hm⟩ := Outcome.bind_eq_ok.mp hm
  obtain ⟨-, hm⟩ := Outcome.check_bind_eq_ok.mp hm
  cases hm
  have hmoment := (readDate_eq_ok_iff hctx).mp hread
  have hgiven := isEmptyText_of_toMoment? hmoment
  have htime :
      readTimeText setting.zone precision nonEmpty v ctx = .ok (writeTime m.time precision) :=
    readTimeText_of_timeOfDay? hctx (timeOfDay?_of_toMoment? hv hmoment)
  have hdate : readDateText setting.zone nonEmpty v ctx = .ok (writeDate m.day) :=
    readDateText_of_toMoment? hctx hmoment
  have hstamp :
      readStampText setting.zone precision nonEmpty v ctx = .ok (writeStamp m precision) :=
    readStampText_of_toMoment? hctx hmoment
  refine ⟨m, rfl, ?_, ?_, ?_⟩
  · exact Outcome.map_eq_ok.mpr ⟨_, SpanRule.parse_of_read hctx htime hgiven, rfl⟩
  · exact Outcome.map_eq_ok.mpr ⟨_, SpanRule.parse_of_read hctx hdate hgiven, rfl⟩
  · exact Outcome.map_eq_ok.mpr ⟨_, SpanRule.parse_of_read hctx hstamp hgiven, rfl⟩

/-- A morning on a clock ahead of universal time, written with blanks all over. -/
def earlyText : String :=
  " 2024-02-29t9:05:07.25 +05:30 "

theorem givesClock_earlyText : (Value.text earlyText).GivesClock := by
  have hread : ∃ m, readMoment? earlyText = some m ∧ m.time.hour = 9 := ⟨_, rfl, rfl⟩
  obtain ⟨m, hm, hhour⟩ := hread
  obtain ⟨form, hchars, hdenotes⟩ := ((Calendar.readMoment?_iff_grammar earlyText).2 m).mp hm
  refine ⟨form, hchars, Option.isSome_iff_ne_none.mpr fun hnone => ?_⟩
  have := hdenotes.hour
  simp [hhour, DateForm.clockField, hnone] at this

theorem texts_of_date_earlyText :
    (timeString {} .millisecond).parse "en" (.text earlyText) .root = .ok (.text "09:05:07.250") ∧
    (dateString {}).parse "en" (.text earlyText) .root = .ok (.text "2024-02-29") ∧
    (timestamp {} .millisecond).parse "en" (.text earlyText) .root =
      .ok (.text "2024-02-29 09:05:07.250") := by
  obtain ⟨m, hm, htime, hdate, hstamp⟩ := @texts_of_date "en" _ (.moment _) _ .millisecond
    (.bool false) Context.plain_root givesClock_earlyText rfl
  cases hm
  exact ⟨htime, hdate, hstamp⟩

end Leaf

end Intake
