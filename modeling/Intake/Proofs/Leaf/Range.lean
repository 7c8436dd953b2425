import Intake.Proofs.Calendar.Order
import Intake.Proofs.Leaf.Canonical
import Intake.Proofs.Faults.Temporal
import Mathlib.Data.List.Lex

/-!
# Ranges of dates and times

A rule for dates and times as text holds its result against bounds that are read in the same way, as
texts.  As canonical texts are in the order of what they say, this compares what a calendar and a
clock show, to the precision of the rule.

## Main definitions

* `SpanKind` — the rules for dates, times of day, and dates with times.
* `SpanKind.units?` — what a calendar and a clock show of the moment that a value stands for.
* `SpanKind.IsBound` — the values that a rule may have as bounds.

## Main statements

* `checkRange_eq_ok_iff` — when a result is within its bounds.
* `SpanKind.exists_shows_of_read` — what is read from a value is the text of what it shows.
* `Leaf.parse_range_iff` — texts are in the order of what they show, and a rule with bounds accepts
  what is between these.
-/

namespace Intake

open Outcome (bind_eq_ok check_bind_eq_ok map_eq_ok ofFault_eq_ok)
open Calendar (Moment Day TimeOfDay Precision ClockText Zone writeDate writeTime writeStamp
  readMoment?)

/-! ## Kinds of texts -/

/-- The kinds of canonical text that rules give out. -/
inductive SpanKind where
  | date
  | time (precision : Precision)
  | stamp (precision : Precision)

/-- The time of day that a value stands for.  Text without the letter that joins a date and a time
may have it anywhere. -/
def timeOfDay? (zone : Zone) (v : Value) : Option TimeOfDay :=
  match v with
  | .text s =>
    if s.toList.contains 'T' then (readMoment? s).map (·.time)
    else (ClockText.find? (Text.trimChars s.toList)).bind (·.toTime?)
  | v => (toMoment? zone v).map (·.time)

namespace SpanKind

/-- The rule for texts of a kind. -/
def leaf (kind : SpanKind) (rule : SpanRule) : Leaf :=
  match kind with
  | .date => .dateString rule
  | .time precision => .timeString rule precision
  | .stamp precision => .timestamp rule precision

/-- The type of such a rule. -/
def type : SpanKind → String
  | .date => "dateString"
  | .time _ => "timeString"
  | .stamp _ => "timestamp"

/-- How such a rule reads an input. -/
def read (zone : Zone) : SpanKind → Value → Value → Context → Outcome String
  | .date => readDateText zone
  | .time precision => readTimeText zone precision
  | .stamp precision => readStampText zone precision

/-- What a calendar and a clock show of the moment that a value stands for, the largest unit
first. -/
def units? (zone : Zone) (kind : SpanKind) (v : Value) : Option (List Nat) :=
  match kind with
  | .date => (toMoment? zone v).map (·.day.units)
  | .time precision => (timeOfDay? zone v).map fun time => (time.cut precision).units
  | .stamp precision => (toMoment? zone v).map (·.units precision)

/-- A text of a kind, and what it says. -/
inductive Shows : SpanKind → String → List Nat → Prop
  | date (d : Day) : Shows .date (writeDate d) d.units
  | time (t : TimeOfDay) (precision : Precision) :
      Shows (.time precision) (writeTime t precision) (t.cut precision).units
  | stamp (m : Moment) (precision : Precision) :
      Shows (.stamp precision) (writeStamp m precision) (m.units precision)

variable {zone : Zone} {kind : SpanKind} {s t : String} {xs ys : List Nat} {v nonEmpty : Value}
  {ctx : Context}

/-- Texts of a kind are in the order of what they say. -/
theorem Shows.lt_iff (hs : kind.Shows s xs) (ht : kind.Shows t ys) : s < t ↔ xs < ys := by
  cases hs with
  | date d =>
    cases ht
    exact Calendar.writeDate_lt_iff
  | time time precision =>
    cases ht
    exact Calendar.writeTime_lt_iff precision
  | stamp m precision =>
    cases ht
    exact Calendar.writeStamp_lt_iff precision

theorem parse_leaf_eq_ok_iff {rule : SpanRule} {setting : Setting} {w : Value} :
    (kind.leaf rule).parse setting v ctx = .ok w ↔
      ∃ s, w = .text s ∧ rule.parse kind.type (kind.read setting.zone) v ctx = .ok s := by
  have hmap : (kind.leaf rule).parse setting v ctx =
      Value.text <$> rule.parse kind.type (kind.read setting.zone) v ctx := by
    cases kind <;> rfl
  rw [hmap, map_eq_ok]
  constructor
  · intro h
    obtain ⟨s, hs, heq⟩ := h
    exact ⟨s, heq.symm, hs⟩
  · intro h
    obtain ⟨s, heq, hs⟩ := h
    exact ⟨s, hs, heq.symm⟩

theorem contextFree_read (zone : Zone) (kind : SpanKind) (nonEmpty : Value) :
    ContextFree (kind.read zone nonEmpty) := by
  cases kind with
  | date => exact contextFree_readDateText zone nonEmpty
  | time precision => exact contextFree_readTimeText zone precision nonEmpty
  | stamp precision => exact contextFree_readStampText zone precision nonEmpty

/-! ## What is read -/

/-- A value stands for the same moment with blanks around it. -/
theorem toMoment?_of_trimInput {w : Value} (h : trimInput nonEmpty v ctx = .ok w) :
    toMoment? zone w = toMoment? zone v := by
  cases v with
  | text s =>
    obtain ⟨t, ht, rfl⟩ := map_eq_ok.mp h
    rw [TextRule.eq_trim_of_parse_bare ht, toMoment?, toMoment?, readMoment?, readMoment?,
      Text.trim, String.toList_ofList, Text.trimChars_trimChars]
  | _ =>
    cases h
    rfl

/-- A time that is written out is that of the clock. -/
theorem exists_time_of_writeClockText {precision : Precision} {clock : ClockText}
    {expected : Value} (h : writeClockText precision ctx expected clock = .ok s) :
    ∃ t, clock.toTime? = some t ∧ s = writeTime t precision := by
  obtain ⟨⟨hhour, hminute, hsecond⟩, rfl⟩ := writeClockText_eq_ok.mp h
  have hrange : (clock.hour < 24 ∧ clock.minute < 60) ∧ clock.second < 60 ∧
      Calendar.fractionMicros clock.fraction < 1000000 :=
    ⟨⟨Nat.lt_succ_of_le hhour, Nat.lt_succ_of_le hminute⟩, Nat.lt_succ_of_le hsecond,
      Calendar.fractionMicros_lt clock.fraction⟩
  exact ⟨_, dif_pos hrange, rfl⟩

/-- What is read as a time of day is the text of the time that the value stands for. -/
theorem exists_time_of_readTimeText {precision : Precision} (hctx : ctx.Plain)
    (h : readTimeText zone precision nonEmpty v ctx = .ok s) :
    ∃ t, timeOfDay? zone v = some t ∧ s = writeTime t precision := by
  have hinner := hctx.overriding_expected "timeString"
  have hmoment : (do
      let m ← readDate zone v (ctx.overriding (ctx.expected "timeString"))
      return writeTime m.time precision : Outcome String) = .ok s →
        ∃ m, toMoment? zone v = some m ∧ s = writeTime m.time precision := by
    intro h
    obtain ⟨m, hm, hs⟩ := bind_eq_ok.mp h
    cases hs
    exact ⟨m, (readDate_eq_ok_iff hinner).mp hm, rfl⟩
  cases v with
  | text text =>
    simp only [readTimeText] at h
    rw [timeOfDay?]
    split at h
    · rename_i hmarked
      obtain ⟨m, hm, hs⟩ := hmoment h
      refine ⟨m.time, ?_, hs⟩
      rw [toMoment?] at hm
      rw [if_pos hmarked, hm]
      rfl
    · obtain ⟨trimmed, htrimmed, h⟩ := bind_eq_ok.mp h
      have hchars : trimmed.toList = Text.trimChars text.toList := by
        rw [TextRule.eq_trim_of_parse_bare htrimmed, Text.trim, String.toList_ofList]
      rw [hchars] at h
      cases hfind : ClockText.find? (Text.trimChars text.toList) with
      | none => simp [hfind] at h
      | some clock =>
        rw [hfind] at h
        obtain ⟨t, ht, hs⟩ := exists_time_of_writeClockText h
        refine ⟨t, ?_, hs⟩
        rw [if_neg ‹_›]
        exact ht
  | _ =>
    obtain ⟨m, hm, hs⟩ := hmoment h
    refine ⟨m.time, ?_, hs⟩
    rw [timeOfDay?, hm]
    · rfl
    · simp

/-- What is read from a value is the text of what it shows. -/
theorem exists_shows_of_read (hctx : ctx.Plain) (h : kind.read zone nonEmpty v ctx = .ok s) :
    ∃ xs, kind.units? zone v = some xs ∧ kind.Shows s xs := by
  cases kind with
  | date =>
    obtain ⟨w, hw, h⟩ := bind_eq_ok.mp h
    obtain ⟨m, hm, h⟩ := bind_eq_ok.mp h
    obtain rfl : writeDate m.day = s := Except.ok.inj h
    have hmoment := (readDate_eq_ok_iff (hctx.overriding_expected "dateString")).mp hm
    rw [toMoment?_of_trimInput hw] at hmoment
    exact ⟨_, by rw [units?, hmoment]; rfl, .date m.day⟩
  | time precision =>
    obtain ⟨t, ht, rfl⟩ := exists_time_of_readTimeText hctx h
    exact ⟨_, by rw [units?, ht]; rfl, .time t precision⟩
  | stamp precision =>
    obtain ⟨w, hw, h⟩ := bind_eq_ok.mp h
    obtain ⟨m, hm, h⟩ := bind_eq_ok.mp h
    obtain rfl : writeStamp m precision = s := Except.ok.inj h
    have hmoment := (readDate_eq_ok_iff (hctx.overriding_expected "timestamp")).mp hm
    rw [toMoment?_of_trimInput hw] at hmoment
    exact ⟨_, by rw [units?, hmoment]; rfl, .stamp m precision⟩

end SpanKind

/-! ## Ranges -/

/-- A result is in range if it is not below the lower bound and not above the upper. -/
theorem checkRange_eq_ok_iff {α : Type} {ctx : Context} {expected : Value} {type : String}
    {min max : Option Value} {readBound : Value → Context → Outcome α}
    {below above : α → α → Except Fault Bool} {result : α} (hctx : ctx.Plain)
    (hfree : ContextFree readBound) :
    checkRange ctx expected type min max readBound below above result = .ok () ↔
      (∀ bound ∈ min, ∃ least, readBound bound .root = .ok least ∧
        below result least = .ok false) ∧
      ∀ bound ∈ max, ∃ most, readBound bound .root = .ok most ∧ above result most = .ok false := by
  obtain ⟨subject, hsubject⟩ := hctx.exists_boundSubject type
  have hread : ∀ (bound : Value) (name : String) (a : α),
      readBound bound { name := .text name } = .ok a ↔ readBound bound .root = .ok a := by
    intro bound name a
    exact (hfree (Context.plain_named (.text name)) Context.plain_root bound).eq_ok_iff a
  rw [checkRange, hsubject, Outcome.ofFault_ok, Outcome.ok_bind, check_bind_eq_ok]
  simp [bind_eq_ok, ofFault_eq_ok, hread]

namespace SpanRule

variable {rule : SpanRule} {type : String} {read : Value → Value → Context → Outcome String}
  {v nonEmpty : Value} {s : String} {ctx : Context}

/-- What comes out of a rule is what was read, unless it is empty. -/
theorem read_of_parse (h : rule.parse type read v ctx = .ok s) (hne : s ≠ "") :
    (!rule.nonEmpty.isTruthy && v.isEmptyText) = false ∧ read rule.nonEmpty v ctx = .ok s := by
  rw [SpanRule.parse] at h
  split at h
  · cases h
    exact absurd rfl hne
  · rename_i hgiven
    obtain ⟨text, htext, h⟩ := bind_eq_ok.mp h
    obtain ⟨-, h⟩ := check_bind_eq_ok.mp h
    cases h
    exact ⟨Bool.eq_false_iff.mpr hgiven, htext⟩

theorem read_of_parse_unbounded (h : SpanRule.parse { nonEmpty } type read v ctx = .ok s)
    (hne : s ≠ "") :
    (!nonEmpty.isTruthy && v.isEmptyText) = false ∧ read nonEmpty v ctx = .ok s :=
  read_of_parse h hne

/-- A bound as a rule reads it: as a rule without bounds does. -/
def readBound (read : Value → Value → Context → Outcome String) (bound : Value) (ctx : Context) :
    Outcome String :=
  if bound.isEmptyText then .ok "" else read (.bool false) bound ctx

theorem contextFree_readBound (hfree : ContextFree (read (.bool false))) :
    ContextFree (readBound read) := by
  intro c d hc hd bound
  rw [readBound, readBound]
  split
  · exact .ok ""
  · exact hfree hc hd bound

/-- A rule accepts what it reads within its bounds, in the order of texts. -/
theorem parse_eq_ok_iff_of_unbounded {w : String} (hctx : ctx.Plain)
    (hfree : ContextFree (read (.bool false)))
    (hv : SpanRule.parse { nonEmpty := rule.nonEmpty } type read v ctx = .ok s) (hne : s ≠ "") :
    rule.parse type read v ctx = .ok w ↔ w = s ∧
      (∀ bound ∈ rule.min, ∃ least, readBound read bound .root = .ok least ∧ ¬ s < least) ∧
      ∀ bound ∈ rule.max, ∃ most, readBound read bound .root = .ok most ∧ ¬ most < s := by
  obtain ⟨hgiven, hread⟩ := read_of_parse_unbounded hv hne
  have hrange : checkRange ctx (ctx.expected type) type rule.min rule.max (readBound read)
      textBelow textAbove s = .ok () ↔
        (∀ bound ∈ rule.min, ∃ least, readBound read bound .root = .ok least ∧ ¬ s < least) ∧
        ∀ bound ∈ rule.max, ∃ most, readBound read bound .root = .ok most ∧ ¬ most < s := by
    rw [checkRange_eq_ok_iff hctx (contextFree_readBound hfree)]
    simp [textBelow, textAbove]
  have hparse : rule.parse type read v ctx = do
      checkRange ctx (ctx.expected type) type rule.min rule.max (readBound read)
        textBelow textAbove s
      return s := by
    rw [SpanRule.parse, hgiven, hread]
    rfl
  rw [hparse, check_bind_eq_ok, hrange, Outcome.pure_eq_ok, Except.ok.injEq, eq_comm, and_comm]

end SpanRule

/-! ## Leaves -/

/-- A bound that a rule of a kind accepts by itself as something. -/
def SpanKind.IsBound (kind : SpanKind) (setting : Setting) (bound : Value) : Prop :=
  ∃ s, s ≠ "" ∧ (kind.leaf {}).parse setting bound .root = .ok (.text s)

/-- What is read from a bound shows what the bound does. -/
theorem SpanKind.IsBound.exists_shows {kind : SpanKind} {setting : Setting} {bound : Value}
    (h : kind.IsBound setting bound) :
    ∃ s xs, SpanRule.readBound (kind.read setting.zone) bound .root = .ok s ∧
      kind.units? setting.zone bound = some xs ∧ kind.Shows s xs := by
  obtain ⟨s, hne, h⟩ := h
  obtain ⟨_, heq, h⟩ := parse_leaf_eq_ok_iff.mp h
  cases heq
  obtain ⟨hgiven, hread⟩ := SpanRule.read_of_parse_unbounded h hne
  obtain ⟨xs, hxs, hshows⟩ := exists_shows_of_read Context.plain_root hread
  refine ⟨s, xs, ?_, hxs, hshows⟩
  have hempty : bound.isEmptyText = false := by simpa [Value.isTruthy] using hgiven
  rw [SpanRule.readBound, hempty]
  exact hread

namespace Leaf

variable {kind : SpanKind} {rule : SpanRule} {setting : Setting} {s : String} {v : Value}
  {ctx : Context}

/-- A rule accepts what it would accept without bounds, if that shows nothing out of range. -/
theorem parse_eq_ok_iff_of_units {w : Value} {now : List Nat} (hctx : ctx.Plain)
    (hv : (kind.leaf { nonEmpty := rule.nonEmpty }).parse setting v ctx = .ok (.text s))
    (hne : s ≠ "")
    (hbounds : ∀ bound, bound ∈ rule.min ∨ bound ∈ rule.max → kind.IsBound setting bound)
    (hnow : kind.units? setting.zone v = some now) :
    (kind.leaf rule).parse setting v ctx = .ok w ↔ w = .text s ∧
      (∀ bound ∈ rule.min, ∃ least, kind.units? setting.zone bound = some least ∧ least ≤ now) ∧
      ∀ bound ∈ rule.max, ∃ most, kind.units? setting.zone bound = some most ∧ now ≤ most := by
  obtain ⟨_, heq, hv⟩ := SpanKind.parse_leaf_eq_ok_iff.mp hv
  cases heq
  have hshows : kind.Shows s now := by
    obtain ⟨-, hread⟩ := SpanRule.read_of_parse_unbounded hv hne
    obtain ⟨xs, hxs, hshows⟩ := SpanKind.exists_shows_of_read hctx hread
    rw [hnow] at hxs
    cases hxs
    exact hshows
  have hmin : ∀ bound ∈ rule.min,
      ((∃ least, SpanRule.readBound (kind.read setting.zone) bound .root = .ok least ∧
          ¬ s < least) ↔
        ∃ least, kind.units? setting.zone bound = some least ∧ least ≤ now) := by
    intro bound hbound
    obtain ⟨t, xs, ht, hxs, hbound⟩ := (hbounds bound (.inl hbound)).exists_shows
    simp only [ht, hxs, Except.ok.injEq, Option.some.injEq, exists_eq_left']
    rw [hshows.lt_iff hbound, not_lt]
  have hmax : ∀ bound ∈ rule.max,
      ((∃ most, SpanRule.readBound (kind.read setting.zone) bound .root = .ok most ∧ ¬ most < s) ↔
        ∃ most, kind.units? setting.zone bound = some most ∧ now ≤ most) := by
    intro bound hbound
    obtain ⟨t, xs, ht, hxs, hbound⟩ := (hbounds bound (.inr hbound)).exists_shows
    simp only [ht, hxs, Except.ok.injEq, Option.some.injEq, exists_eq_left']
    rw [hbound.lt_iff hshows, not_lt]
  rw [SpanKind.parse_leaf_eq_ok_iff, ← forall₂_congr hmin, ← forall₂_congr hmax]
  simp only [SpanRule.parse_eq_ok_iff_of_unbounded hctx (kind.contextFree_read _ _) hv hne]
  constructor
  · intro h
    obtain ⟨t, rfl, rfl, h⟩ := h
    exact ⟨rfl, h⟩
  · intro h
    exact ⟨s, h.1, rfl, h.2⟩

/-- Canonical texts are in the order of what they show, and a rule accepts what it would accept
without bounds if the calendar and the clock show nothing before the lower bound and nothing after
the upper one, both read in the same way. -/
theorem parse_range_iff (hctx : ctx.Plain) :
    (∀ precision a b, writeStamp a precision < writeStamp b precision ↔
      a.units precision < b.units precision) ∧
    (∀ a b, writeDate a < writeDate b ↔ a.units < b.units) ∧
    (∀ precision a b, writeTime a precision < writeTime b precision ↔
      (a.cut precision).units < (b.cut precision).units) ∧
    ∀ (kind : SpanKind) (rule : SpanRule) (v : Value) (s : String), s ≠ "" →
      (kind.leaf { nonEmpty := rule.nonEmpty }).parse setting v ctx = .ok (.text s) →
      (∀ bound, bound ∈ rule.min ∨ bound ∈ rule.max → kind.IsBound setting bound) →
      ∃ now, kind.units? setting.zone v = some now ∧ ∀ w,
        (kind.leaf rule).parse setting v ctx = .ok w ↔ w = .text s ∧
        (∀ bound ∈ rule.min, ∃ least, kind.units? setting.zone bound = some least ∧ least ≤ now) ∧
        ∀ bound ∈ rule.max, ∃ most, kind.units? setting.zone bound = some most ∧ now ≤ most := by
  refine ⟨fun precision a b => Calendar.writeStamp_lt_iff precision,
    fun a b => Calendar.writeDate_lt_iff, fun precision a b => Calendar.writeTime_lt_iff precision,
    ?_⟩
  intro kind rule v s hne hv hbounds
  obtain ⟨_, heq, hparse⟩ := SpanKind.parse_leaf_eq_ok_iff.mp hv
  cases heq
  obtain ⟨-, hread⟩ := SpanRule.read_of_parse_unbounded hparse hne
  obtain ⟨now, hnow, -⟩ := SpanKind.exists_shows_of_read hctx hread
  exact ⟨now, hnow, fun w => parse_eq_ok_iff_of_units hctx hv hne hbounds hnow⟩

/-- A leap day from eight o'clock on, up to the start of the next day. -/
def leapDayRule : SpanRule where
  min := some (.text "2024-02-29 08:00")
  max := some (.day
    ⟨2024, 3, 1, leapNight.day.year_pos, leapNight.day.year_le, by decide, by decide⟩)

theorem parse_range_iff_leapDay :
    (timestamp leapDayRule .second).parse "en" (.text "2024-02-29T23:59:59.004-02:00") .root =
      .ok (.text "2024-02-29 23:59:59") ∧
    ∀ w, (timestamp leapDayRule .second).parse "en" (.text "2024-03-01 00:00:01") .root ≠
      .ok w := by
  obtain ⟨-, -, -, hrange⟩ := @parse_range_iff "en" .root Context.plain_root
  have hbounds : ∀ bound, bound ∈ leapDayRule.min ∨ bound ∈ leapDayRule.max →
      (SpanKind.stamp .second).IsBound "en" bound := by
    intro bound hbound
    rcases hbound with h | h
    · cases h
      exact ⟨"2024-02-29 08:00:00", by decide, by rfl⟩
    · cases h
      exact ⟨"2024-03-01 00:00:00", by decide, by rfl⟩
  obtain ⟨now, hnow, hbefore⟩ := hrange (.stamp .second) leapDayRule
    (.text "2024-02-29T23:59:59.004-02:00") "2024-02-29 23:59:59" (by decide) (by rfl) hbounds
  obtain ⟨later, hlater, hafter⟩ := hrange (.stamp .second) leapDayRule
    (.text "2024-03-01 00:00:01") "2024-03-01 00:00:01" (by decide) (by rfl) hbounds
  obtain rfl : [2024, 2, 29, 23, 59, 59, 0] = now := Option.some.inj hnow
  obtain rfl : [2024, 3, 1, 0, 0, 1, 0] = later := Option.some.inj hlater
  constructor
  · refine (hbefore _).mpr ⟨rfl, ?_, ?_⟩
    · intro bound hbound
      cases hbound
      exact ⟨[2024, 2, 29, 8, 0, 0, 0], by rfl, by decide⟩
    · intro bound hbound
      cases hbound
      exact ⟨[2024, 3, 1, 0, 0, 0, 0], by rfl, by decide⟩
  · intro w h
    obtain ⟨-, -, hmax⟩ := (hafter w).mp h
    obtain ⟨most, hmost, hle⟩ := hmax _ rfl
    obtain rfl : [2024, 3, 1, 0, 0, 0, 0] = most := Option.some.inj hmost
    exact absurd hle (by decide)

end Leaf

end Intake
