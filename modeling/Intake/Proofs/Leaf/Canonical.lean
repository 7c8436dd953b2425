import Intake.Proofs.Leaf.Settled

/-!
# Canonical texts of dates and times

What is written of a moment is read as that moment again, as far as it was written, and the rules
for dates and times as text take it in unchanged.  So they do with all they give out themselves.

## Main statements

* `SpanRule.parse_unbounded` — a rule without bounds takes in what it reads as itself.
* `Leaf.canonical_read_back` — canonical text is read back by all that read it.
-/

namespace Intake

open Calendar (Moment Precision TimeOfDay writeDate writeTime writeStamp readMoment?)

/-! ## Rules without bounds -/

section Unbounded

variable {zone : Calendar.Zone} {ctx : Context} {nonEmpty : Value}

/-- A rule without bounds gives out what it reads of an input that is something. -/
theorem SpanRule.parse_of_read {type : String} {read : Value → Value → Context → Outcome String}
    {v : Value} {s : String} (hctx : ctx.Plain) (hread : read nonEmpty v ctx = .ok s)
    (hv : v.isEmptyText = false) : SpanRule.parse { nonEmpty } type read v ctx = .ok s := by
  simp only [SpanRule.parse, hv, Bool.and_false, Bool.false_eq_true, if_false, hread,
    Outcome.ok_bind, checkRange_unbounded hctx]
  rfl

/-- A rule without bounds takes in what it reads as itself. -/
theorem SpanRule.parse_unbounded {type : String}
    {read : Value → Value → Context → Outcome String} {s : String} (hctx : ctx.Plain)
    (hread : read nonEmpty (.text s) ctx = .ok s) (hne : s ≠ "") :
    SpanRule.parse { nonEmpty } type read (.text s) ctx = .ok s :=
  SpanRule.parse_of_read hctx hread (String.isEmpty_eq_false_iff.mpr hne)

variable (m : Moment) (precision : Precision)

theorem parseStamp_writeStamp (hctx : ctx.Plain) :
    SpanRule.parseStamp zone { nonEmpty } precision (.text (writeStamp m precision)) ctx =
      .ok (writeStamp m precision) :=
  SpanRule.parse_unbounded hctx (readStampText_writeStamp hctx m) (writeStamp_ne_empty m)

theorem parseDate_writeDate (hctx : ctx.Plain) :
    SpanRule.parseDate zone { nonEmpty } (.text (writeDate m.day)) ctx = .ok (writeDate m.day) :=
  SpanRule.parse_unbounded hctx (readDateText_writeDate hctx m.day) (writeDate_ne_empty m.day)

theorem parseTime_writeTime (hctx : ctx.Plain) :
    SpanRule.parseTime zone { nonEmpty } precision (.text (writeTime m.time precision)) ctx =
      .ok (writeTime m.time precision) := by
  refine SpanRule.parse_unbounded hctx ?_ fun h =>
    Calendar.writeClock_ne_empty _ _ _ _ precision (congrArg String.toList h)
  exact readTimeText_writeClock hctx (Nat.le_of_lt_succ m.time.hour_lt)
    (Nat.le_of_lt_succ m.time.minute_lt) (Nat.le_of_lt_succ m.time.second_lt) m.time.millisecond_lt

end Unbounded

/-! ## Leaves -/

/-- A written moment is read as what was written of it, and the rules for dates and times as text
leave canonical text alone, all that they give out included. -/
theorem Leaf.canonical_read_back (m : Moment) (precision : Precision) (setting : Setting)
    {ctx : Context} (hctx : ctx.Plain) :
    readMoment? (writeStamp m precision) = some ⟨m.day, m.time.cut precision, none, false⟩ ∧
    readMoment? (writeDate m.day) = some ⟨m.day, .midnight, none, false⟩ ∧
    (∀ nonEmpty,
      (Leaf.timeString { nonEmpty } precision).parse setting (.text (writeTime m.time precision))
        ctx = .ok (.text (writeTime m.time precision)) ∧
      (Leaf.timestamp { nonEmpty } precision).parse setting (.text (writeStamp m precision)) ctx
        = .ok (.text (writeStamp m precision)) ∧
      (Leaf.dateString { nonEmpty }).parse setting (.text (writeDate m.day)) ctx
        = .ok (.text (writeDate m.day))) ∧
    ∀ rule, ∀ leaf ∈ [Leaf.timestamp rule precision, .dateString rule, .timeString rule precision],
      ∀ v w, leaf.parse setting v ctx = .ok w → leaf.parse setting w ctx = .ok w := by
  refine ⟨Calendar.readMoment?_writeStamp m precision, Calendar.readMoment?_writeDate m.day,
    fun nonEmpty => ⟨?_, ?_, ?_⟩, fun rule leaf hleaf v w h => ?_⟩
  · exact Outcome.map_eq_ok.mpr ⟨_, parseTime_writeTime m precision hctx, rfl⟩
  · exact Outcome.map_eq_ok.mpr ⟨_, parseStamp_writeStamp m precision hctx, rfl⟩
  · exact Outcome.map_eq_ok.mpr ⟨_, parseDate_writeDate m hctx, rfl⟩
  · have hsettles : leaf.Settles := by
      simp only [List.mem_cons, List.not_mem_nil, or_false] at hleaf
      rcases hleaf with rfl | rfl | rfl <;> exact trivial
    exact leaf.parse_settles hsettles hctx h

/-- The last moments of a leap day, on a clock two hours behind universal time. -/
def leapNight : Moment where
  day := ⟨2024, 2, 29, by decide, by decide, by decide, by decide⟩
  time := ⟨23, 59, 59, 4567, by decide, by decide, by decide, by decide⟩
  offset := some ⟨-120, by decide⟩
  fold := false

theorem Leaf.canonical_read_back_leapNight :
    writeStamp leapNight .millisecond = "2024-02-29 23:59:59.004" ∧
    readMoment? "2024-02-29 23:59:59.004" =
      some ⟨leapNight.day, leapNight.time.cut .millisecond, none, false⟩ ∧
    (Leaf.timeString {} .millisecond).parse "en" (.text "23:59:59.004") .root =
      .ok (.text "23:59:59.004") := by
  have hback := canonical_read_back leapNight .millisecond "en" Context.plain_root
  exact ⟨by rfl, hback.1, (hback.2.2.1 (.bool false)).1⟩

end Intake
