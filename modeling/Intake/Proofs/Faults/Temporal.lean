import Intake.Proofs.Calendar.Zone
import Intake.Proofs.Faults.Text
import Intake.Proofs.Rule.Temporal

/-!
# Where rules for dates and times fault

Moments are compared by their seconds, which are not found for some near the ends of the calendar,
on a clock of unknown offset.  So a rule for dates with a bound faults there.  Dates and times as
text are compared as texts, so these rules never fault.

## Main definitions

* `DateRule.Sound`, `SpanRule.Sound` — rules whose bounds can be read.
* `DateRule.Breaks` — the inputs on which a rule for dates faults.

## Main statements

* `DateRule.faults_parse` — it faults on those and on no others.
* `SpanRule.not_faults_parseDate`, `SpanRule.not_faults_parseTime`, `SpanRule.not_faults_parseStamp`
  — the rules for dates and times as text never fault.
-/

namespace Intake

open Outcome (faults_bind faults_map faults_ofFault bind_eq_ok check_bind_eq_ok ofFault_eq_ok)
open Calendar (Moment Precision ClockText Zone)
open Numeric (Binary64 Number TooLong)

variable {zone : Zone} {ctx : Context} {type : Value} {v bound : Value} {α : Type}

/-! ## Moments -/

theorem Calendar.Moment.exists_seconds_eq_error_iff {m : Moment} :
    (∃ edge, m.seconds zone = .error edge) ↔ m.Unplaced zone := by
  rw [Moment.seconds, Moment.Unplaced]
  cases m.offset with
  | some offset => simp
  | none =>
    rw [← Zone.exists_secondOf_iff]
    cases zone.secondOf m.wallSecond m.fold <;> simp

theorem compareMoments_eq_error_iff {rel : Binary64 → Binary64 → Bool} {a b : Moment} :
    (∃ fault, compareMoments rel zone a b = .error fault) ↔ a.Unplaced zone ∨ b.Unplaced zone := by
  rw [compareMoments, ← Moment.exists_seconds_eq_error_iff, ← Moment.exists_seconds_eq_error_iff]
  cases a.seconds zone with
  | error edge => simp
  | ok s => cases b.seconds zone <;> simp

theorem Calendar.not_tooLong_of_ofEpochMillis? {i : Int} {m : Moment}
    (h : Calendar.ofEpochMillis? zone (.int i) = some m) : ¬ TooLong i := by
  have hfinite : (Calendar.millisToSeconds (.int i)).isFinite = true := by
    rw [Calendar.ofEpochMillis?] at h
    generalize Calendar.millisToSeconds (.int i) = seconds at h ⊢
    cases hfinite : seconds.isFinite with
    | true => rfl
    | false => simp [hfinite] at h
  rw [Calendar.millisToSeconds] at hfinite
  exact Numeric.not_tooLong_of_isFinite hfinite

/-- What stands for a moment can be written: no number of milliseconds in the calendar has too many
digits. -/
theorem exists_json_of_toMoment? {m : Moment} (h : toMoment? zone v = some m) :
    ∃ text, v.json = .ok text := by
  cases v with
  | number n =>
    cases hjson : (Value.number n).json with
    | ok text => exact ⟨text, rfl⟩
    | error fault =>
      obtain ⟨i, hi, htoo⟩ := Value.json_number_eq_error_iff.mp ⟨fault, hjson⟩
      rw [toMoment?, hi] at h
      split at h
      · simp at h
      · exact absurd htoo (Calendar.not_tooLong_of_ofEpochMillis? h)
  | moment m => simp [Value.json]
  | day d => simp [Value.json]
  | text s => simp [Value.json]
  | _ => simp [toMoment?] at h

theorem not_faults_readDate (hctx : ctx.Plain) : ¬ (readDate zone v ctx).Faults := by
  obtain ⟨subject, hsubject⟩ := hctx.exists_boundSubject "date"
  rw [readDate]
  rw [hsubject]
  split
  · simp
  · exact hctx.not_faults_reject (hctx.expected "date") _

theorem readDate_eq_ok_iff (hctx : ctx.Plain) {m : Moment} :
    readDate zone v ctx = .ok m ↔ toMoment? zone v = some m := by
  refine ⟨fun h => ?_, readDate_of_toMoment? hctx⟩
  rw [readDate] at h
  split at h
  · obtain ⟨subject, -, h⟩ := bind_eq_ok.mp h
    cases h
    assumption
  · simp at h

/-! ## Ranges -/

/-- A result cannot be compared with a bound: with the lower one, or with the upper one after it
has passed the lower. -/
def RangeClash (min max : Option Value) (read : Value → Option α)
    (below above : α → α → Except Fault Bool) (result : α) : Prop :=
  (∃ bound ∈ min, ∃ least, read bound = some least ∧
    ∃ fault, below result least = .error fault) ∨
  (∀ bound ∈ min, ∃ least, read bound = some least ∧ below result least = .ok false) ∧
    ∃ bound ∈ max, ∃ most, read bound = some most ∧ ∃ fault, above result most = .error fault

/-- A range of bounds that can be read and written faults where a comparison does. -/
theorem faults_checkRange (hctx : ctx.Plain) (htype : ∃ t, type = .text t) {name : String}
    {min max : Option Value} {readBound : Value → Context → Outcome α} {read : Value → Option α}
    (hread : ∀ bound, bound ∈ min ∨ bound ∈ max → (∃ a, read bound = some a ∧
      ∀ c : Context, c.Plain → readBound bound c = .ok a) ∧ ∃ text, bound.json = .ok text)
    {below above : α → α → Except Fault Bool} {result : α} :
    (checkRange ctx type name min max readBound below above result).Faults ↔
      RangeClash min max read below above result := by
  obtain ⟨subject, hsubject⟩ := hctx.exists_boundSubject name
  have hside : ∀ {bound : Value} {label side : String} {compare : α → Except Fault Bool},
      bound ∈ min ∨ bound ∈ max →
      ((do let a ← readBound bound { name := .text label }
           ctx.rejectIf (← Outcome.ofFault (compare a)) type (boundText side bound) :
             Outcome Unit).Faults ↔
        ∃ a, read bound = some a ∧ ∃ fault, compare a = .error fault) ∧
      ((do let a ← readBound bound { name := .text label }
           ctx.rejectIf (← Outcome.ofFault (compare a)) type (boundText side bound) :
             Outcome Unit) = .ok () ↔
        ∃ a, read bound = some a ∧ compare a = .ok false) := by
    intro bound label side compare hbound
    obtain ⟨⟨a, ha, hok⟩, text, htext⟩ := hread bound hbound
    rw [hok _ (Context.plain_named (.text label)), ha]
    simp [faults_bind, faults_ofFault, hctx.faults_rejectIf htype, boundText, htext, bind_eq_ok,
      ofFault_eq_ok]
  rw [checkRange, RangeClash]
  rw [hsubject]
  rw [Outcome.ofFault_ok, Outcome.ok_bind, Outcome.faults_check_bind, faults_checkGiven,
    faults_checkGiven, checkGiven_eq_ok]
  refine or_congr ?_ (and_congr ?_ ?_)
  · exact exists_congr fun bound => and_congr_right fun hbound => (hside (.inl hbound)).1
  · exact forall₂_congr fun bound hbound => (hside (.inl hbound)).2
  · exact exists_congr fun bound => and_congr_right fun hbound => (hside (.inr hbound)).1

/-! ## Dates -/

/-- The bounds of a rule stand for moments. -/
structure DateRule.Sound (zone : Zone) (rule : DateRule) : Prop where
  min : ∀ bound ∈ rule.min, ∃ least, toMoment? zone bound = some least
  max : ∀ bound ∈ rule.max, ∃ most, toMoment? zone bound = some most

/-- The inputs on which a rule for dates faults: those whose moment is compared with a bound while
one of the two is not found by the clocks of the place. -/
def DateRule.Breaks (zone : Zone) (rule : DateRule) (v : Value) : Prop :=
  ∃ m, toMoment? zone v = some m ∧
    ((∃ bound ∈ rule.min, ∃ least, toMoment? zone bound = some least ∧
        (m.Unplaced zone ∨ least.Unplaced zone)) ∨
      (∀ bound ∈ rule.min, ∃ least, toMoment? zone bound = some least ∧
        momentBelow zone m least = .ok false) ∧
      ∃ bound ∈ rule.max, ∃ most, toMoment? zone bound = some most ∧
        (m.Unplaced zone ∨ most.Unplaced zone))

theorem DateRule.faults_parse {rule : DateRule} (hrule : rule.Sound zone) (hctx : ctx.Plain) :
    (rule.parse zone v ctx).Faults ↔ rule.Breaks zone v := by
  have hread : ∀ bound, bound ∈ rule.min ∨ bound ∈ rule.max →
      (∃ m, toMoment? zone bound = some m ∧
        ∀ c : Context, c.Plain → readDate zone bound c = .ok m) ∧
      ∃ text, bound.json = .ok text := by
    intro bound hbound
    obtain ⟨m, hm⟩ := hbound.elim (hrule.min bound) (hrule.max bound)
    exact ⟨⟨m, hm, fun _ hc => readDate_of_toMoment? hc hm⟩, exists_json_of_toMoment? hm⟩
  rw [DateRule.parse, DateRule.Breaks]
  simp only [faults_bind, not_faults_readDate hctx, false_or, readDate_eq_ok_iff hctx,
    faults_checkRange hctx (hctx.expected "date") hread, Outcome.pure_eq_ok, Outcome.not_faults_ok,
    and_false, exists_false, or_false, RangeClash, momentBelow, momentAbove,
    compareMoments_eq_error_iff]

/-! ## Dates and times as text -/

section Spans

variable {nonEmpty : Value} {precision : Precision} {s : String}

/-- Only text is trimmed, and that is taken as it is. -/
theorem not_faults_trimInput (hctx : ctx.Plain) : ¬ (trimInput nonEmpty v ctx).Faults := by
  simp only [trimInput]
  split
  · rw [faults_map, TextRule.faults_parse_bare hctx]
    simp [Value.int]
  · exact Outcome.not_faults_ok _

/-- What is left of a value after trimming can be written only if the value can. -/
theorem exists_json_of_trimInput {w : Value} (h : trimInput nonEmpty v ctx = .ok w)
    (hw : ∃ text, w.json = .ok text) : ∃ text, v.json = .ok text := by
  simp only [trimInput] at h
  split at h
  · simp [Value.json]
  · cases h
    exact hw

theorem not_faults_readDateText (hctx : ctx.Plain) :
    ¬ (readDateText zone nonEmpty v ctx).Faults := by
  have hinner := hctx.overriding_expected "dateString"
  rw [readDateText]
  simp [faults_bind, not_faults_trimInput hinner, not_faults_readDate hinner]

theorem not_faults_readStampText (hctx : ctx.Plain) :
    ¬ (readStampText zone precision nonEmpty v ctx).Faults := by
  have hinner := hctx.overriding_expected "timestamp"
  rw [readStampText]
  simp [faults_bind, not_faults_trimInput hinner, not_faults_readDate hinner]

theorem not_faults_writeClockText (hctx : ctx.Plain) (htype : ∃ t, type = .text t)
    (clock : ClockText) : ¬ (writeClockText precision ctx type clock).Faults := by
  have hreject := fun reason => hctx.not_faults_reject (α := String) htype reason
  rw [writeClockText]
  split
  · exact hreject _
  · split
    · exact hreject _
    · split
      · exact hreject _
      · exact Outcome.not_faults_ok _

theorem not_faults_readTimeText (hctx : ctx.Plain) :
    ¬ (readTimeText zone precision nonEmpty v ctx).Faults := by
  have htype := hctx.expected "timeString"
  have hinner := hctx.overriding_expected "timeString"
  unfold readTimeText
  dsimp only
  split
  · split
    · simp [faults_bind, not_faults_readDate hinner]
    · rw [faults_bind, TextRule.faults_parse_bare hinner]
      rintro (⟨n, hn, -⟩ | ⟨trimmed, -, h⟩)
      · simp [Value.int] at hn
      · split at h
        · exact hctx.not_faults_reject htype _ h
        · exact not_faults_writeClockText hctx htype _ h
  · simp [faults_bind, not_faults_readDate hinner]

end Spans

namespace SpanRule

variable {rule : SpanRule} {precision : Precision} {s : String}

/-- The bounds of a rule are empty or can be read. -/
def Sound (rule : SpanRule) (read : Value → Value → Context → Outcome String) : Prop :=
  ∀ bound, bound ∈ rule.min ∨ bound ∈ rule.max →
    bound = .text "" ∨ ∃ s, read (.bool false) bound .root = .ok s

/-- A rule never faults if its inputs are read without a fault, alike in all contexts, and if what
is read can be written. -/
theorem not_faults_parse {type : String} {read : Value → Value → Context → Outcome String}
    (hrule : rule.Sound read) (hctx : ctx.Plain)
    (hread : ∀ nonEmpty v, ¬ (read nonEmpty v ctx).Faults)
    (hfree : ∀ nonEmpty, ContextFree (read nonEmpty))
    (hjson : ∀ {v s}, read (.bool false) v .root = .ok s → ∃ text, v.json = .ok text) :
    ¬ (rule.parse type read v ctx).Faults := by
  rw [SpanRule.parse]
  split
  · exact Outcome.not_faults_ok _
  · rw [faults_bind]
    rintro (h | ⟨text, -, h⟩)
    · exact hread _ _ h
    · have hbound : ∀ bound, bound ∈ rule.min ∨ bound ∈ rule.max →
          (∃ s, (if bound.isEmptyText then some "" else (read (.bool false) bound .root).toOption)
            = some s ∧ ∀ c : Context, c.Plain →
            (if bound.isEmptyText then .ok "" else read (.bool false) bound c) = .ok s) ∧
          ∃ text, bound.json = .ok text := by
        intro bound hbound
        rcases hrule bound hbound with rfl | ⟨s, hs⟩
        · simp [Value.isEmptyText, Value.json]
        · refine ⟨?_, hjson hs⟩
          split
          · exact ⟨"", rfl, fun _ _ => rfl⟩
          · refine ⟨s, by rw [hs]; rfl, fun c hc => ?_⟩
            exact ((hfree _ Context.plain_root hc bound).eq_ok_iff s).mp hs
      simp only [faults_bind, faults_checkRange hctx (hctx.expected type) hbound, RangeClash,
        textBelow, textAbove] at h
      simp at h

theorem not_faults_parseDate (hrule : rule.Sound (readDateText zone)) (hctx : ctx.Plain) :
    ¬ (rule.parseDate zone v ctx).Faults := by
  refine not_faults_parse hrule hctx (fun _ _ => not_faults_readDateText hctx)
    (contextFree_readDateText zone) fun h => ?_
  obtain ⟨w, hw, h⟩ := bind_eq_ok.mp h
  obtain ⟨m, hm, -⟩ := bind_eq_ok.mp h
  have hinner := Context.plain_root.overriding_expected "dateString"
  exact exists_json_of_trimInput hw (exists_json_of_toMoment? ((readDate_eq_ok_iff hinner).mp hm))

theorem not_faults_parseStamp (hrule : rule.Sound (readStampText zone precision))
    (hctx : ctx.Plain) : ¬ (rule.parseStamp zone precision v ctx).Faults := by
  refine not_faults_parse hrule hctx (fun _ _ => not_faults_readStampText hctx)
    (contextFree_readStampText zone precision) fun h => ?_
  obtain ⟨w, hw, h⟩ := bind_eq_ok.mp h
  obtain ⟨m, hm, -⟩ := bind_eq_ok.mp h
  have hinner := Context.plain_root.overriding_expected "timestamp"
  exact exists_json_of_trimInput hw (exists_json_of_toMoment? ((readDate_eq_ok_iff hinner).mp hm))

theorem not_faults_parseTime (hrule : rule.Sound (readTimeText zone precision)) (hctx : ctx.Plain) :
    ¬ (rule.parseTime zone precision v ctx).Faults := by
  refine not_faults_parse hrule hctx (fun _ _ => not_faults_readTimeText hctx)
    (contextFree_readTimeText zone precision) fun {v s} h => ?_
  have hinner := Context.plain_root.overriding_expected "timeString"
  unfold readTimeText at h
  dsimp only at h
  split at h
  · simp [Value.json]
  · obtain ⟨m, hm, -⟩ := bind_eq_ok.mp h
    exact exists_json_of_toMoment? ((readDate_eq_ok_iff hinner).mp hm)

end SpanRule

end Intake
