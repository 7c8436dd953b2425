import Intake.Proofs.Leaf.Concord

/-!
# Times of day in texts

The rule for times of day searches a text for a time, unless the text has the capital letter of a
date with a time.  So it reads more than the texts that are a time, or a date with a time, as a
whole: the first time may stand amid any other text, which is left out without a word.

## Main definitions

* `WritesTime` — the texts that are a time, or a date with a time, as a whole.
* `TimeAmid` — the other texts that a time is found in.

## Main statements

* `timeOfDay?_text_iff` — a time is read of the texts of both sorts.
* `TimeAmid.not_writesTime` — no text is of both.
* `Leaf.timeString_text` — what is accepted as a time of day.
-/

namespace Intake

open Calendar (ClockForm ClockText DateForm FirstClock Moment Precision TimeOfDay readMoment?
  writeTime)

variable {zone : Calendar.Zone} {s : String} {t : TimeOfDay} {m : Moment}

/-- A text, blanks around it aside, is as a whole a time whose fields are in range, or a date with a
time that the calendar has. -/
inductive WritesTime (s : String) : TimeOfDay → Prop
  | clock (clock : ClockForm) {t : TimeOfDay} (chars : clock.chars = Text.trimChars s.toList)
      (inRange : clock.said.toTime? = some t) : WritesTime s t
  | date {m : Moment} (gives : (Value.text s).GivesClock) (reads : readMoment? s = some m) :
      WritesTime s m.time

/-- A text without the capital letter of a date with a time is not a date, and its first time has
fields in range, but something stands before it or after it. -/
structure TimeAmid (s : String) (t : TimeOfDay) : Prop where
  unmarked : 'T' ∉ s.toList
  not_date : readMoment? s = none
  amid : ∃ before clock after, FirstClock (Text.trimChars s.toList) before clock after ∧
    before ++ after ≠ [] ∧ clock.said.toTime? = some t

/-- A text is of one sort only. -/
theorem TimeAmid.not_writesTime (h : TimeAmid s t) {t' : TimeOfDay} : ¬ WritesTime s t' := by
  obtain ⟨before, clock, after, hfirst, hne, -⟩ := h.amid
  intro hwrites
  cases hwrites with
  | clock whole hchars =>
    rw [← hchars] at hfirst
    obtain ⟨rfl, rfl⟩ := hfirst.eq_nil_of_chars
    exact hne rfl
  | date _ hread =>
    rw [h.not_date] at hread
    cases hread

/-- A text is no time as a whole if a time is not read of it up to its end. -/
theorem not_writesTime_of_read? (hdate : readMoment? s = none)
    (hclock : ∀ said, ClockText.read? (Text.trimChars s.toList) ≠ some (said, [])) :
    ¬ WritesTime s t := by
  intro hwrites
  cases hwrites with
  | clock clock hchars =>
    have hread := ClockText.read?_chars clock Calendar.closesClock_nil
    rw [List.append_nil, hchars] at hread
    exact hclock _ hread
  | date _ hread =>
    rw [hdate] at hread
    cases hread

/-- The date that a text writes has a time if a character of times stands in the text. -/
theorem givesClock_of_mem {c : Char} (hread : readMoment? s = some m)
    (hc : c ∈ Text.trimChars s.toList) (hdigit : Text.isDigit c = false) (hhyphen : c ≠ '-') :
    (Value.text s).GivesClock := by
  obtain ⟨form, hchars, -⟩ := ((Calendar.readMoment?_iff_grammar s).2 m).mp hread
  refine ⟨form, hchars, Option.isSome_iff_ne_none.mpr fun htime => ?_⟩
  rw [← hchars] at hc
  exact DateForm.not_mem_chars htime hdigit hhyphen hc

/-- A text is read by its first time if it has no capital letter of a date with a time. -/
theorem timeOfDay?_of_unmarked (h : 'T' ∉ s.toList) : timeOfDay? zone (.text s) = some t ↔
    ∃ before clock after, FirstClock (Text.trimChars s.toList) before clock after ∧
      clock.said.toTime? = some t := by
  rw [timeOfDay?, if_neg (by simpa using h), Option.bind_eq_some_iff]
  constructor
  · rintro ⟨said, hfind, htime⟩
    obtain ⟨before, clock, after, hfirst, rfl⟩ := ClockText.find?_eq_some_iff.mp hfind
    exact ⟨before, clock, after, hfirst, htime⟩
  · rintro ⟨before, clock, after, hfirst, htime⟩
    exact ⟨clock.said, ClockText.find?_eq_some_iff.mpr ⟨before, clock, after, hfirst, rfl⟩, htime⟩

/-- A time is read of the texts that are a time or a date with a time as a whole, and of the texts
that have one amid other text. -/
theorem timeOfDay?_text_iff :
    timeOfDay? zone (.text s) = some t ↔ WritesTime s t ∨ TimeAmid s t := by
  constructor
  · intro h
    by_cases hmark : 'T' ∈ s.toList
    · rw [timeOfDay?, if_pos (by simpa using hmark)] at h
      obtain ⟨m, hread, rfl⟩ := Option.map_eq_some_iff.mp h
      have hstays : 'T' ∈ Text.trimChars s.toList := Text.mem_trimChars hmark (by decide)
      exact .inl (.date (givesClock_of_mem hread hstays (by decide) (by decide)) hread)
    · obtain ⟨before, clock, after, hfirst, htime⟩ := (timeOfDay?_of_unmarked hmark).mp h
      cases hread : readMoment? s with
      | some m =>
        have hcolon : ':' ∈ Text.trimChars s.toList := by
          rw [← hfirst.split]
          simp [ClockForm.chars]
        have hgives := givesClock_of_mem hread hcolon (by decide) (by decide)
        obtain rfl : m.time = t := by
          rw [timeOfDay?_of_toMoment? hgives hread] at h
          exact Option.some.inj h
        exact .inl (.date hgives hread)
      | none =>
        by_cases hrest : before ++ after = []
        · obtain ⟨rfl, rfl⟩ := List.append_eq_nil_iff.mp hrest
          refine .inl (.clock clock ?_ htime)
          rw [← hfirst.split, List.nil_append, List.append_nil]
        · exact .inr ⟨hmark, hread, before, clock, after, hfirst, hrest, htime⟩
  · rintro (hwrites | hamid)
    · cases hwrites with
      | clock clock hchars htime =>
        have hmark : 'T' ∉ s.toList := by
          intro hmark
          have hstays : 'T' ∈ Text.trimChars s.toList := Text.mem_trimChars hmark (by decide)
          rw [← hchars] at hstays
          exact ClockForm.not_mem_chars (by decide) (by decide) (by decide) hstays
        exact (timeOfDay?_of_unmarked hmark).mpr
          ⟨[], clock, [], hchars ▸ FirstClock.whole clock, htime⟩
      | date hgives hread => exact timeOfDay?_of_toMoment? hgives hread
    · obtain ⟨before, clock, after, hfirst, -, htime⟩ := hamid.amid
      exact (timeOfDay?_of_unmarked hamid.unmarked).mpr ⟨before, clock, after, hfirst, htime⟩

/-! ## Leaves -/

namespace Leaf

/-- What a rule for times of day accepts of a text as something is written in the text, as a whole
or amid other text; both are accepted where there are no bounds, and no text is of both sorts. -/
theorem timeString_text {setting : Setting} {ctx : Context} (precision : Precision) (s : String)
    (hctx : ctx.Plain) :
    (∀ rule w, w ≠ "" → (timeString rule precision).parse setting (.text s) ctx = .ok (.text w) →
      ∃ t, (WritesTime s t ∨ TimeAmid s t) ∧ w = writeTime t precision) ∧
    (∀ nonEmpty t, WritesTime s t ∨ TimeAmid s t →
      (timeString { nonEmpty } precision).parse setting (.text s) ctx =
        .ok (.text (writeTime t precision))) ∧
    ∀ t, TimeAmid s t → ∀ t', ¬ WritesTime s t' := by
  refine ⟨?_, ?_, fun t hamid t' => hamid.not_writesTime⟩
  · intro rule w hne h
    obtain ⟨text, htext, heq⟩ := Outcome.map_eq_ok.mp h
    cases heq
    obtain ⟨-, hread⟩ := SpanRule.read_of_parse htext hne
    obtain ⟨t, htime, hwritten⟩ := SpanKind.exists_time_of_readTimeText hctx hread
    exact ⟨t, timeOfDay?_text_iff.mp htime, hwritten⟩
  · intro nonEmpty t h
    have htime : timeOfDay? setting.zone (.text s) = some t := timeOfDay?_text_iff.mpr h
    have hgiven : (Value.text s).isEmptyText = false := by
      refine String.isEmpty_eq_false_iff.mpr ?_
      rintro rfl
      cases htime
    exact Outcome.map_eq_ok.mpr
      ⟨_, SpanRule.parse_of_read hctx (readTimeText_of_timeOfDay? hctx htime) hgiven, rfl⟩

theorem timeString_text_longHour :
    TimeAmid "123:45" ⟨23, 45, 0, 0, by decide, by decide, by decide, by decide⟩ ∧
    (timeString {} .minute).parse "en" (.text "123:45") .root = .ok (.text "23:45") := by
  obtain ⟨-, haccepts, -⟩ := @timeString_text "en" .root .minute "123:45" Context.plain_root
  have hread : timeOfDay? .utc (.text "123:45") =
      some ⟨23, 45, 0, 0, by decide, by decide, by decide, by decide⟩ := rfl
  have hsort := timeOfDay?_text_iff.mp hread
  have hparse := haccepts (.bool false) _ hsort
  refine ⟨hsort.resolve_left (not_writesTime_of_read? rfl ?_), hparse⟩
  intro said h
  cases h

/-- Not all texts that are accepted as times of day are a time, or a date of the calendar, as a
whole: the time after a date that the calendar does not have is taken as well. -/
theorem not_forall_timeString_writesTime :
    ¬ ∀ (rule : SpanRule) (precision : Precision) (s w : String), w ≠ "" →
      (timeString rule precision).parse "en" (.text s) .root = .ok (.text w) →
      (readMoment? s).isSome ∨ ∃ t, WritesTime s t := by
  intro hall
  rcases hall {} .minute "2023-13-45 09:45" "09:45" (by decide) rfl with hdate | ⟨t, hwrites⟩
  · cases hdate
  · refine not_writesTime_of_read? rfl ?_ hwrites
    intro said h
    cases h

end Leaf

end Intake
