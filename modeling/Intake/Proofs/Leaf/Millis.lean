import Intake.Proofs.Calendar.Millis
import Intake.Proofs.Leaf.Concord
import Intake.Proofs.Leaf.Sampled

/-!
# Milliseconds as dates

A rule for dates takes a number as milliseconds since the epoch.  The moment that it makes of a
whole number is exact if the quotient by a thousand is close enough to its binary number, and so
within 272 years of the epoch; it is never off by more than fifteen microseconds.  The rule for
dates with times writes whole milliseconds, so a moment that is just short is written one too low.

## Main statements

* `Leaf.parse_millis` — what the rules make of a number of milliseconds.
-/

namespace Intake

open Calendar (Moment Precision writeStamp)
open Numeric (Binary64)

/-- A clock that is cut to milliseconds shows the last whole one. -/
theorem Calendar.Moment.wall_cut_millisecond (m : Moment) :
    Moment.wall ⟨m.day, m.time.cut .millisecond, none, false⟩ = m.wall / 1000 * 1000 := by
  rw [Moment.wall, Moment.wall, Calendar.TimeOfDay.micros, Calendar.TimeOfDay.micros,
    Moment.microsPerDay]
  dsimp only [Calendar.TimeOfDay.cut]
  omega

namespace Leaf

variable {i : Int} {locale : String} {ctx : Context} {nonEmpty : Value}

/-- Where the clocks show universal time, a number of milliseconds from the second year to the end
of the calendar is a date.  It is off by no more than fifteen microseconds; it is exact if its
seconds are off by half a microsecond at most, and so within 272 years of the epoch or if it is so
many eighths of a second.  As text to the millisecond it is read back as the same number if it is
not short of that. -/
theorem parse_millis (hlow : -62104060800000 ≤ i) (hhigh : i ≤ 253402300799999)
    (hctx : ctx.Plain) :
    ∃ (m : Moment) (units : Int),
      (date {}).parse (.universal locale) (.int i) ctx = .ok (.moment m) ∧ m.offset = none ∧
      (Calendar.millisToSeconds (.int i)).units? = some units ∧
      |m.wall - 1000 * i| ≤ 15 ∧
      (m.wall = 1000 * i ↔ |(units / Binary64.unitsPerOne - i / 1000 : ℚ)| ≤ 1 / 2000000) ∧
      (|i| < 2 ^ 33 * 1000 ∨ (125 : Int) ∣ i → m.wall = 1000 * i) ∧
      (m.wall = 1000 * i → (m.time.microsecond : Int) = i % 1000 * 1000) ∧
      ∃ s m',
        (timestamp { nonEmpty } .millisecond).parse (.universal locale) (.int i) ctx =
          .ok (.text s) ∧
        (date {}).parse (.universal locale) (.text s) ctx = .ok (.moment m') ∧ m'.offset = none ∧
        m'.wall = 1000 * if 1000 * i ≤ m.wall then i else i - 1 := by
  obtain ⟨m, units, hm, hoffset, hunits, hnear, hiff, hexact⟩ :=
    Calendar.exists_ofEpochMillis? hlow hhigh
  have hmoment : toMoment? .utc (.int i) = some m := by
    rw [Value.int, toMoment?, if_neg (by simp [Numeric.Number.isNaN]), hm]
  refine ⟨m, units, parse_date hctx hmoment, hoffset, hunits, hnear, hiff, hexact, ?_, ?_⟩
  · intro hwall
    have := m.wall_emod
    omega
  · have hread : readStampText .utc .millisecond nonEmpty (.int i) ctx =
        .ok (writeStamp m .millisecond) := readStampText_of_toMoment? hctx hmoment
    refine ⟨writeStamp m .millisecond, ⟨m.day, m.time.cut .millisecond, none, false⟩, ?_, ?_, rfl,
      ?_⟩
    · exact Outcome.map_eq_ok.mpr
        ⟨_, SpanRule.parse_of_read hctx hread (isEmptyText_of_toMoment? hmoment), rfl⟩
    · exact parse_date hctx (by rw [toMoment?, Calendar.readMoment?_writeStamp])
    · rw [Moment.wall_cut_millisecond]
      rw [abs_le] at hnear
      split <;> omega

theorem parse_millis_september : ∃ m : Moment,
    (-62104060800000 ≤ (1663393500123 : Int) ∧ (1663393500123 : Int) ≤ 253402300799999) ∧
    Context.root.Plain ∧ (date {}).parse "en" (.int 1663393500123) .root = .ok (.moment m) ∧
      m.wall = 1663393500123000 ∧ m.time.microsecond = 123000 := by
  obtain ⟨m, units, hm, -, -, -, -, hexact, hmicros, -⟩ :=
    @parse_millis 1663393500123 "en" .root (.bool false) (by decide) (by decide) Context.plain_root
  have hwall := hexact (.inl (by norm_num))
  exact ⟨m, ⟨by decide, by decide⟩, Context.plain_root, hm, hwall, by have := hmicros hwall; omega⟩

theorem not_forall_parse_millis_exact :
    ¬ ∀ i : Int, -62104060800000 ≤ i → i ≤ 253402300799999 →
      ∃ m : Moment, (date {}).parse "en" (.int i) .root = .ok (.moment m) ∧ m.offset = none ∧
        m.wall = 1000 * i := by
  intro h
  obtain ⟨m, hm, -, hwall⟩ := h 253402300799123 (by decide) (by decide)
  have hshort : (toMoment? .utc (.int 253402300799123)).map (·.wall) = some 253402300799122986 := by
    decide +kernel
  obtain ⟨m', hmoment, hwall'⟩ := Option.map_eq_some_iff.mp hshort
  cases hm.symm.trans (@parse_date "en" _ _ _ Context.plain_root hmoment)
  rw [hwall'] at hwall
  exact absurd hwall (by decide)

end Leaf

end Intake
