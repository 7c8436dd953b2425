import Intake.Rule.Temporal
import Intake.Proofs.Calendar.RoundTrip
import Intake.Proofs.Rule.Text

/-!
# Dates and times that rules accept

A rule for dates and times as text gives out canonical text.  That text is read as what it says,
which is written as the same text again.

## Main statements

* `DateRule.parse_settles` — a moment is taken in as it is.
* `SpanRule.parseDate_settles`, `SpanRule.parseTime_settles`, `SpanRule.parseStamp_settles` — so
  is canonical text.
-/

namespace Intake

open Outcome (bind_eq_ok check_bind_eq_ok map_eq_ok)
open Calendar (Moment Precision ClockText Day TimeOfDay Zone writeDate writeTime writeStamp
  writeClock)

variable {zone : Zone}

/-! ## Dates -/

/-- In a plain context the bounds of an input have a name. -/
theorem Context.Plain.exists_boundSubject {ctx : Context} (h : ctx.Plain) (type : String) :
    ∃ subject, boundSubject ctx type = .ok subject := by
  unfold boundSubject
  generalize ctx.name = name, h.name = hname
  cases hname with
  | null => exact ⟨type, rfl⟩
  | text s => exact ⟨_, rfl⟩

/-- Where there are no bounds, nothing is outside of them. -/
theorem checkRange_unbounded {α : Type} {expected : Value} {type : String}
    {readBound : Value → Context → Outcome α} {below above : α → α → Except Fault Bool} {a : α}
    {ctx : Context} (hctx : ctx.Plain) :
    checkRange ctx expected type none none readBound below above a = .ok () := by
  obtain ⟨subject, hsubject⟩ := hctx.exists_boundSubject type
  simp [checkRange, hsubject, checkGiven]

/-- What stands for a moment is read as that. -/
theorem readDate_of_toMoment? {v : Value} {ctx : Context} {m : Moment} (hctx : ctx.Plain)
    (h : toMoment? zone v = some m) : readDate zone v ctx = .ok m := by
  obtain ⟨subject, hsubject⟩ := hctx.exists_boundSubject "date"
  simp [readDate, h, hsubject]

theorem DateRule.parse_settles {rule : DateRule} {v : Value} {ctx : Context} {m : Moment}
    (hctx : ctx.Plain) (h : rule.parse zone v ctx = .ok m) :
    rule.parse zone (.moment m) ctx = .ok m := by
  obtain ⟨read, hread, h⟩ := bind_eq_ok.mp h
  obtain ⟨hrange, h⟩ := check_bind_eq_ok.mp h
  cases h
  rw [DateRule.parse, readDate_of_toMoment? hctx (v := .moment m) rfl, Outcome.ok_bind, hrange]
  rfl

/-! ## Canonical text -/

section Canonical

variable {ctx : Context} {precision : Precision} {nonEmpty : Value} {s : String}

/-- Text that is trimmed already is left alone. -/
theorem trimInput_text (hctx : ctx.Plain) (htrim : Text.trim s = s) (hne : s ≠ "") :
    trimInput nonEmpty (.text s) ctx = .ok (.text s) := by
  rw [trimInput, TextRule.parse_bare hctx htrim hne]
  rfl

theorem trim_of_forall (h : ∀ c ∈ s.toList, Text.isBlank c = false) : Text.trim s = s := by
  rw [Text.trim, Text.trimChars_of_forall h, String.ofList_toList]

theorem trim_writeStamp (m : Moment) : Text.trim (writeStamp m precision) =
    writeStamp m precision := by
  rw [Text.trim, Calendar.trimChars_writeStamp, String.ofList_toList]

theorem writeDate_ne_empty (d : Day) : writeDate d ≠ "" := by
  intro h
  have := congrArg String.toList h
  simp [Calendar.toList_writeDate] at this

theorem writeStamp_ne_empty (m : Moment) : writeStamp m precision ≠ "" := by
  intro h
  have := congrArg String.toList h
  simp [Calendar.toList_writeStamp] at this

/-- A canonical date is read as itself. -/
theorem readDateText_writeDate (hctx : ctx.Plain) (d : Day) :
    readDateText zone nonEmpty (.text (writeDate d)) ctx = .ok (writeDate d) := by
  have hinner := hctx.overriding_expected "dateString"
  have htrim : Text.trim (writeDate d) = writeDate d :=
    trim_of_forall fun c => Calendar.not_isBlank_of_mem_writeDate
  rw [readDateText]
  rw [trimInput_text hinner htrim (writeDate_ne_empty d), Outcome.ok_bind,
    readDate_of_toMoment? hinner (m := .startOf d) (by simp [toMoment?])]
  rfl

/-- A canonical date with a time is read as itself. -/
theorem readStampText_writeStamp (hctx : ctx.Plain) (m : Moment) :
    readStampText zone precision nonEmpty (.text (writeStamp m precision)) ctx =
      .ok (writeStamp m precision) := by
  have hinner := hctx.overriding_expected "timestamp"
  rw [readStampText]
  rw [trimInput_text hinner (trim_writeStamp m) (writeStamp_ne_empty m), Outcome.ok_bind,
    readDate_of_toMoment? hinner (m := ⟨m.day, m.time.cut precision, none, false⟩)
      (by simp [toMoment?])]
  simp [writeStamp, Calendar.writeTime_cut]

/-- A canonical time has no letter, so it is searched for a time. -/
theorem not_contains_writeClock (hour minute second millisecond : Nat) :
    (writeClock hour minute second millisecond precision).toList.contains 'T' = false := by
  rw [List.contains_eq_mem, decide_eq_false_iff_not]
  intro h
  have := Calendar.mem_writeClock h
  simp_all

/-- A time is written out if its fields are in range. -/
theorem writeClockText_eq_ok {expected : Value} {clock : ClockText} :
    writeClockText precision ctx expected clock = .ok s ↔
      (clock.hour ≤ 23 ∧ clock.minute ≤ 59 ∧ clock.second ≤ 59) ∧
        writeClock clock.hour clock.minute clock.second
          (Calendar.fractionMicros clock.fraction / 1000 : Nat) precision = s := by
  rw [writeClockText]
  by_cases hhour : 23 < clock.hour
  · simp [hhour, Nat.not_le_of_lt hhour]
  by_cases hminute : 59 < clock.minute
  · simp [hhour, hminute, Nat.not_le_of_lt hminute]
  by_cases hsecond : 59 < clock.second
  · simp [hhour, hminute, hsecond, Nat.not_le_of_lt hsecond]
  rw [if_neg hhour, if_neg hminute, if_neg hsecond, Except.ok.injEq]
  exact (and_iff_right ⟨Nat.le_of_not_lt hhour, Nat.le_of_not_lt hminute,
    Nat.le_of_not_lt hsecond⟩).symm

/-- A canonical time is found in itself and written the same again. -/
theorem readTimeText_writeClock {hour minute second millisecond : Nat} (hctx : ctx.Plain)
    (hhour : hour ≤ 23) (hminute : minute ≤ 59) (hsecond : second ≤ 59)
    (hmilli : millisecond < 1000) :
    readTimeText zone precision nonEmpty
      (.text (writeClock hour minute second millisecond precision)) ctx =
      .ok (writeClock hour minute second millisecond precision) := by
  have hinner := hctx.overriding_expected "timeString"
  have htrim : Text.trim (writeClock hour minute second millisecond precision) =
      writeClock hour minute second millisecond precision := by
    refine trim_of_forall fun c hc => ?_
    rcases Calendar.mem_writeClock hc with h | rfl | rfl
    · exact Text.not_isBlank_of_isDigit h
    · decide
    · decide
  have hne : writeClock hour minute second millisecond precision ≠ "" := fun h =>
    Calendar.writeClock_ne_empty hour minute second millisecond precision (congrArg _ h)
  have hfind := ClockText.find?_writeClock (Nat.lt_of_le_of_lt hhour (by decide))
    (Nat.lt_of_le_of_lt hminute (by decide)) (Nat.lt_of_le_of_lt hsecond (by decide)) hmilli
    precision
  rw [readTimeText]
  rw [not_contains_writeClock, if_neg (by decide), TextRule.parse_bare hinner htrim hne,
    Outcome.ok_bind, hfind]
  have hseconds : (Calendar.clockOf hour minute second millisecond precision).second ≤ 59 := by
    unfold Calendar.clockOf
    dsimp only
    split <;> omega
  have hwrite := @Calendar.writeClock_clockOf hour minute second millisecond hmilli precision
  dsimp only at hwrite ⊢
  exact writeClockText_eq_ok.mpr ⟨⟨hhour, hminute, hseconds⟩, hwrite⟩

/-- What is read as a time of day is a canonical time. -/
theorem readTimeText_cases {v : Value} (h : readTimeText zone precision nonEmpty v ctx = .ok s) :
    ∃ hour minute second millisecond : Nat, hour ≤ 23 ∧ minute ≤ 59 ∧ second ≤ 59 ∧
      millisecond < 1000 ∧ s = writeClock hour minute second millisecond precision := by
  have hmoment : ∀ {x : Outcome Moment},
      (x >>= fun m => pure (writeTime m.time precision)) = .ok s →
      ∃ hour minute second millisecond : Nat, hour ≤ 23 ∧ minute ≤ 59 ∧ second ≤ 59 ∧
        millisecond < 1000 ∧ s = writeClock hour minute second millisecond precision := by
    intro x hx
    obtain ⟨m, -, hs⟩ := bind_eq_ok.mp hx
    obtain rfl : writeTime m.time precision = s := Except.ok.inj hs
    exact ⟨m.time.hour, m.time.minute, m.time.second, m.time.millisecond,
      Nat.le_of_lt_succ m.time.hour_lt, Nat.le_of_lt_succ m.time.minute_lt,
      Nat.le_of_lt_succ m.time.second_lt, m.time.millisecond_lt, rfl⟩
  unfold readTimeText at h
  dsimp only at h
  split at h
  · split at h
    · exact hmoment h
    · obtain ⟨trimmed, -, h⟩ := bind_eq_ok.mp h
      cases hfind : ClockText.find? trimmed.toList with
      | none => simp [hfind] at h
      | some clock =>
        rw [hfind] at h
        obtain ⟨⟨hhour, hminute, hsecond⟩, rfl⟩ := writeClockText_eq_ok.mp h
        exact ⟨clock.hour, clock.minute, clock.second, _, hhour, hminute, hsecond,
          Nat.div_lt_of_lt_mul (Calendar.fractionMicros_lt clock.fraction), rfl⟩
  · exact hmoment h

end Canonical

/-! ## Rules -/

namespace SpanRule

variable {rule : SpanRule} {v : Value} {ctx : Context} {s : String} {precision : Precision}

/-- A rule takes in what it gives out, if that is read as itself and is something. -/
theorem parse_settles {type : String} {read : Value → Value → Context → Outcome String}
    (hread : ∀ {s}, read rule.nonEmpty v ctx = .ok s →
      read rule.nonEmpty (.text s) ctx = .ok s ∧ s ≠ "")
    (h : rule.parse type read v ctx = .ok s) : rule.parse type read (.text s) ctx = .ok s := by
  unfold SpanRule.parse at h
  split at h
  · rename_i hempty
    cases h
    simp only [Bool.and_eq_true] at hempty
    simp [SpanRule.parse, hempty.1, Value.isEmptyText]
  · obtain ⟨text, htext, h⟩ := bind_eq_ok.mp h
    obtain ⟨hrange, h⟩ := check_bind_eq_ok.mp h
    cases h
    obtain ⟨hself, hne⟩ := hread htext
    simp only [SpanRule.parse, Value.isEmptyText, String.isEmpty_eq_false_iff.mpr hne,
      Bool.and_false, Bool.false_eq_true, if_false, hself, Outcome.ok_bind]
    exact check_bind_eq_ok.mpr ⟨hrange, rfl⟩

theorem parseDate_settles (hctx : ctx.Plain) (h : rule.parseDate zone v ctx = .ok s) :
    rule.parseDate zone (.text s) ctx = .ok s := by
  refine parse_settles (fun {s} hs => ?_) h
  obtain ⟨input, -, hs⟩ := bind_eq_ok.mp hs
  obtain ⟨m, -, hs⟩ := bind_eq_ok.mp hs
  obtain rfl : writeDate m.day = s := Except.ok.inj hs
  exact ⟨readDateText_writeDate hctx m.day, writeDate_ne_empty m.day⟩

theorem parseStamp_settles (hctx : ctx.Plain) (h : rule.parseStamp zone precision v ctx = .ok s) :
    rule.parseStamp zone precision (.text s) ctx = .ok s := by
  refine parse_settles (fun {s} hs => ?_) h
  obtain ⟨input, -, hs⟩ := bind_eq_ok.mp hs
  obtain ⟨m, -, hs⟩ := bind_eq_ok.mp hs
  obtain rfl : writeStamp m precision = s := Except.ok.inj hs
  exact ⟨readStampText_writeStamp hctx m, writeStamp_ne_empty m⟩

theorem parseTime_settles (hctx : ctx.Plain) (h : rule.parseTime zone precision v ctx = .ok s) :
    rule.parseTime zone precision (.text s) ctx = .ok s := by
  refine parse_settles (fun {s} hs => ?_) h
  obtain ⟨hour, minute, second, millisecond, hhour, hminute, hsecond, hmilli, rfl⟩ :=
    readTimeText_cases hs
  exact ⟨readTimeText_writeClock hctx hhour hminute hsecond hmilli, fun h =>
    Calendar.writeClock_ne_empty hour minute second millisecond precision (congrArg _ h)⟩

end SpanRule

end Intake
