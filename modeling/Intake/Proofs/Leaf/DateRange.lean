import Intake.Proofs.Calendar.Seconds
import Intake.Proofs.Leaf.Range

/-!
# Ranges of dates

A rule for dates holds its result against its bounds by the seconds since the epoch, which are
binary numbers.  So a moment strictly between the bounds is always accepted, and one that is told
apart from the bounds is accepted just if its instant is between theirs.  Otherwise the rejection
names the bound, the lower one first.

## Main definitions

* `DateRule.Timed` — a rule whose bounds have a number of seconds.
* `DateRule.Verdict` — what a rule says of a moment, by some order of moments.

## Main statements

* `Leaf.parse_date_verdict` — rules compare seconds, and instants where these are told apart.
-/

namespace Intake

open Calendar (Moment Day TimeOfDay Zone)
open Numeric (Number Binary64)

/-! ## The order by seconds -/

namespace Calendar.Moment

variable {zone : Zone} {a b : Moment}

/-- One moment comes before another by the seconds of both. -/
def Below (zone : Zone) (a b : Moment) : Prop :=
  ∃ x y, a.seconds zone = .ok x ∧ b.seconds zone = .ok y ∧ (Number.float x).lt (.float y) = true

theorem exists_seconds_of_not_unplaced (h : ¬ a.Unplaced zone) : ∃ x, a.seconds zone = .ok x := by
  rw [← exists_seconds_eq_error_iff] at h
  cases hseconds : a.seconds zone with
  | ok x => exact ⟨x, rfl⟩
  | error edge => exact absurd ⟨edge, hseconds⟩ h

/-- Placed moments are compared by their seconds. -/
theorem exists_compareMoments (rel : Binary64 → Binary64 → Bool) (ha : ¬ a.Unplaced zone)
    (hb : ¬ b.Unplaced zone) :
    ∃ x y, a.seconds zone = .ok x ∧ b.seconds zone = .ok y ∧
      compareMoments rel zone a b = .ok (rel x y) := by
  obtain ⟨x, hx⟩ := exists_seconds_of_not_unplaced ha
  obtain ⟨y, hy⟩ := exists_seconds_of_not_unplaced hb
  refine ⟨x, y, hx, hy, ?_⟩
  rw [compareMoments, hx, hy]
  rfl

theorem exists_momentBelow (ha : ¬ a.Unplaced zone) (hb : ¬ b.Unplaced zone) :
    ∃ below, momentBelow zone a b = .ok below ∧ (below = true ↔ a.Below zone b) := by
  obtain ⟨x, y, hx, hy, hcompare⟩ := exists_compareMoments _ ha hb
  exact ⟨_, hcompare, by simp [Below, hx, hy]⟩

theorem exists_momentAbove (ha : ¬ a.Unplaced zone) (hb : ¬ b.Unplaced zone) :
    ∃ above, momentAbove zone a b = .ok above ∧ (above = true ↔ b.Below zone a) := by
  obtain ⟨x, y, hx, hy, hcompare⟩ := exists_compareMoments _ ha hb
  exact ⟨_, hcompare, by simp [Below, hx, hy]⟩

/-- By universal time the order of instants is never turned round. -/
theorem Below.le (h : a.Below .utc b) : a.instant ≤ b.instant := by
  obtain ⟨x, y, hx, hy, hlt⟩ := h
  by_contra hnot
  have hle := (counts_of_seconds hy).le_of_lt (counts_of_seconds hx) (Int.not_le.mp hnot)
  rw [Number.lt_eq_false_of_le hle] at hlt
  cases hlt

theorem ToldApart.below_iff (h : ToldApart a b) (ha : ¬ a.Unplaced .utc)
    (hb : ¬ b.Unplaced .utc) : a.Below .utc b ↔ a.instant < b.instant := by
  obtain ⟨x, hx, -⟩ := exists_seconds ha
  obtain ⟨y, hy, -⟩ := exists_seconds hb
  simp only [Below, hx, hy, Except.ok.injEq, exists_and_left, exists_eq_left']
  exact h.seconds_lt_iff hx hy

end Calendar.Moment

/-! ## Verdicts -/

/-- The rejection of a date that stands alone. -/
def dateRejection (reason : String) : Rejection :=
  .mk ("Invalid date, " ++ reason) .null .null "date" reason .null []

theorem reject_date {α : Type} (reason : String) :
    (Context.root.reject (Context.root.expected "date") reason : Outcome α) =
      .error (.rejected (dateRejection reason)) := by
  have hmessage : "Invalid " ++ "" ++ "date" ++ "" ++ ", " ++ reason ++ "" =
      "Invalid date, " ++ reason := by
    rw [String.append_empty]
    rfl
  rw [dateRejection, ← hmessage]
  rfl

namespace DateRule

variable {zone : Zone} {rule : DateRule} {before before' : Moment → Moment → Prop} {d : Moment}
  {out : Outcome Value}

/-- The bounds of a rule stand for moments that the clocks of the place find. -/
structure Timed (zone : Zone) (rule : DateRule) : Prop where
  min : ∀ bound ∈ rule.min, ∃ least, toMoment? zone bound = some least ∧ ¬ least.Unplaced zone
  max : ∀ bound ∈ rule.max, ∃ most, toMoment? zone bound = some most ∧ ¬ most.Unplaced zone

/-- A moment that the lower bound of a rule stands for. -/
def Lower (zone : Zone) (rule : DateRule) (least : Moment) : Prop :=
  ∃ bound ∈ rule.min, toMoment? zone bound = some least

/-- A moment that the upper bound of a rule stands for. -/
def Upper (zone : Zone) (rule : DateRule) (most : Moment) : Prop :=
  ∃ bound ∈ rule.max, toMoment? zone bound = some most

/-- What a rule says of a moment by some order of moments: it rejects what comes before the lower
bound, then what the upper bound comes before, each time with that bound as it was given, and
accepts all else. -/
inductive Verdict (zone : Zone) (rule : DateRule) (before : Moment → Moment → Prop) (d : Moment) :
    Outcome Value → Prop
  | below {bound : Value} {least : Moment} {text : String} (hbound : bound ∈ rule.min)
      (hleast : toMoment? zone bound = some least) (htext : bound.json = .ok text)
      (h : before d least) :
      Verdict zone rule before d
        (.error (.rejected (dateRejection ("min value should be " ++ text))))
  | above {bound : Value} {most : Moment} {text : String}
      (hmin : ∀ least, rule.Lower zone least → ¬ before d least) (hbound : bound ∈ rule.max)
      (hmost : toMoment? zone bound = some most) (htext : bound.json = .ok text)
      (h : before most d) :
      Verdict zone rule before d
        (.error (.rejected (dateRejection ("max value should be " ++ text))))
  | within (hmin : ∀ least, rule.Lower zone least → ¬ before d least)
      (hmax : ∀ most, rule.Upper zone most → ¬ before most d) :
      Verdict zone rule before d (.ok (.moment d))

/-- Orders that agree on the bounds lead to one verdict. -/
theorem Verdict.congr (h : rule.Verdict zone before d out)
    (hmin : ∀ least, rule.Lower zone least → (before d least ↔ before' d least))
    (hmax : ∀ most, rule.Upper zone most → (before most d ↔ before' most d)) :
    rule.Verdict zone before' d out := by
  have hnot : (∀ least, rule.Lower zone least → ¬ before d least) →
      ∀ least, rule.Lower zone least → ¬ before' d least :=
    fun h least hleast => (not_congr (hmin least hleast)).mp (h least hleast)
  cases h with
  | below hbound hleast htext hbefore =>
    exact .below hbound hleast htext ((hmin _ ⟨_, hbound, hleast⟩).mp hbefore)
  | above hlow hbound hmost htext hbefore =>
    exact .above (hnot hlow) hbound hmost htext ((hmax _ ⟨_, hbound, hmost⟩).mp hbefore)
  | within hlow hhigh =>
    exact .within (hnot hlow) fun most hmost => (not_congr (hmax most hmost)).mp (hhigh most hmost)

/-- What is on the right side of both bounds is accepted. -/
theorem Verdict.eq_ok (h : rule.Verdict zone before d out)
    (hmin : ∀ least, rule.Lower zone least → ¬ before d least)
    (hmax : ∀ most, rule.Upper zone most → ¬ before most d) : out = .ok (.moment d) := by
  cases h with
  | below hbound hleast htext hbefore => exact absurd hbefore (hmin _ ⟨_, hbound, hleast⟩)
  | above hlow hbound hmost htext hbefore => exact absurd hbefore (hmax _ ⟨_, hbound, hmost⟩)
  | within hlow hhigh => rfl

/-- A moment is held against a bound. -/
theorem checkBound_eq {bound : Value} {m : Moment} {text side label : String} {bad : Bool}
    {compare : Moment → Except Fault Bool} (hm : toMoment? zone bound = some m)
    (htext : bound.json = .ok text) (hcompare : compare m = .ok bad) :
    (do let m ← readDate zone bound { name := .text label }
        Context.root.rejectIf (← Outcome.ofFault (compare m)) (Context.root.expected "date")
          (boundText side bound) : Outcome Unit) =
      if bad then .error (.rejected (dateRejection (side ++ " value should be " ++ text)))
      else .ok () := by
  rw [readDate_of_toMoment? (Context.plain_named (.text label)) hm, Outcome.ok_bind, hcompare,
    Outcome.ofFault_ok, Outcome.ok_bind, Context.rejectIf, boundText, htext]
  cases bad with
  | false => rfl
  | true => exact reject_date _

/-- A moment is held against a bound if there is one. -/
theorem checkGiven_cases {given : Option Value} {side label : String}
    {compare : Moment → Except Fault Bool} {bad : Moment → Prop}
    (h : ∀ bound ∈ given, ∃ m, toMoment? zone bound = some m ∧
      ∃ answer, compare m = .ok answer ∧ (answer = true ↔ bad m)) {check : Outcome Unit}
    (hcheck : check = checkGiven given fun bound => do
      let m ← readDate zone bound { name := .text label }
      Context.root.rejectIf (← Outcome.ofFault (compare m)) (Context.root.expected "date")
        (boundText side bound)) :
    (check = .ok () ∧ ∀ m, (∃ bound ∈ given, toMoment? zone bound = some m) → ¬ bad m) ∨
    ∃ bound ∈ given, ∃ m text, toMoment? zone bound = some m ∧ bound.json = .ok text ∧ bad m ∧
      check = .error (.rejected (dateRejection (side ++ " value should be " ++ text))) := by
  cases given with
  | none => exact .inl ⟨hcheck, by simp⟩
  | some bound =>
    obtain ⟨m, hm, answer, hcompare, hanswer⟩ := h bound rfl
    obtain ⟨text, htext⟩ := exists_json_of_toMoment? hm
    rw [checkGiven, checkBound_eq hm htext hcompare] at hcheck
    cases answer with
    | true => exact .inr ⟨bound, rfl, m, text, hm, htext, hanswer.mp rfl, hcheck⟩
    | false =>
      refine .inl ⟨hcheck, ?_⟩
      rintro m' ⟨bound', ⟨⟩, hm'⟩ hbad
      cases hm.symm.trans hm'
      exact absurd (hanswer.mpr hbad) (by decide)

/-- A rule gives the verdict by the seconds of moments. -/
theorem verdict_below (hrule : rule.Timed zone) (hd : ¬ d.Unplaced zone) {v : Value}
    (hv : toMoment? zone v = some d) :
    rule.Verdict zone (Moment.Below zone) d (Value.moment <$> rule.parse zone v .root) := by
  have hsubject : boundSubject .root "date" = .ok "date" := rfl
  rw [DateRule.parse, readDate_of_toMoment? Context.plain_root hv, Outcome.ok_bind, checkRange,
    hsubject, Outcome.ofFault_ok, Outcome.ok_bind]
  generalize hlow : checkGiven rule.min _ = low
  generalize hhigh : checkGiven rule.max _ = high
  have hlow := @checkGiven_cases zone _ _ _ _ (fun least => d.Below zone least)
    (fun bound hbound => by
      obtain ⟨least, hleast, hfirst⟩ := hrule.min bound hbound
      exact ⟨least, hleast, Moment.exists_momentBelow hd hfirst⟩) low hlow.symm
  have hhigh := @checkGiven_cases zone _ _ _ _ (fun most => most.Below zone d)
    (fun bound hbound => by
      obtain ⟨most, hmost, hfirst⟩ := hrule.max bound hbound
      exact ⟨most, hmost, Moment.exists_momentAbove hd hfirst⟩) high hhigh.symm
  rcases hlow with ⟨rfl, hmin⟩ | ⟨bound, hbound, least, text, hleast, htext, hbelow, rfl⟩
  · rcases hhigh with ⟨rfl, hmax⟩ | ⟨bound, hbound, most, text, hmost, htext, habove, rfl⟩
    · exact .within hmin hmax
    · exact .above hmin hbound hmost htext habove
  · exact .below hbound hleast htext hbelow

/-- If the bound that is given has a second, so has each moment that it stands for. -/
theorem not_unplaced_of_given {given : Option Value} {m : Moment}
    (h : ∀ bound ∈ given, ∃ m, toMoment? zone bound = some m ∧ ¬ m.Unplaced zone)
    (hm : ∃ bound ∈ given, toMoment? zone bound = some m) : ¬ m.Unplaced zone := by
  obtain ⟨bound, hbound, hm⟩ := hm
  obtain ⟨m', hm', hplaced⟩ := h bound hbound
  cases hm.symm.trans hm'
  exact hplaced

theorem Timed.lower (hrule : rule.Timed zone) {least : Moment} (h : rule.Lower zone least) :
    ¬ least.Unplaced zone :=
  not_unplaced_of_given hrule.min h

theorem Timed.upper (hrule : rule.Timed zone) {most : Moment} (h : rule.Upper zone most) :
    ¬ most.Unplaced zone :=
  not_unplaced_of_given hrule.max h

end DateRule

/-! ## Leaves -/

namespace Leaf

variable {rule : DateRule} {setting : Setting} {locale : String} {v : Value} {d : Moment}

/-- What a rule without bounds makes of an input is the moment that this stands for. -/
theorem toMoment?_of_parse_date {ctx : Context} (hctx : ctx.Plain)
    (h : (date {}).parse setting v ctx = .ok (.moment d)) :
    toMoment? setting.zone v = some d := by
  obtain ⟨m, hm, heq⟩ := Outcome.map_eq_ok.mp h
  cases heq
  obtain ⟨m', hread, hm⟩ := Outcome.bind_eq_ok.mp hm
  obtain ⟨-, hm⟩ := Outcome.check_bind_eq_ok.mp hm
  cases hm
  exact (readDate_eq_ok_iff hctx).mp hread

/-- Where the clocks show universal time, a rule holds a moment against its bounds by the seconds,
if these are found.  They never turn the order of instants round, and what is told apart from the
bounds is held against them by the instant. -/
theorem parse_date_verdict (hrule : rule.Timed .utc)
    (hv : (date {}).parse (.universal locale) v .root = .ok (.moment d))
    (hd : ¬ d.Unplaced .utc) :
    rule.Verdict .utc (Moment.Below .utc) d ((date rule).parse (.universal locale) v .root) ∧
    (∀ m, rule.Lower .utc m ∨ rule.Upper .utc m →
      (d.Below .utc m → d.instant ≤ m.instant) ∧ (m.Below .utc d → m.instant ≤ d.instant)) ∧
    ((∀ m, rule.Lower .utc m ∨ rule.Upper .utc m → d.ToldApart m) →
      rule.Verdict .utc (fun a b => a.instant < b.instant) d
        ((date rule).parse (.universal locale) v .root)) := by
  have hmoment := toMoment?_of_parse_date Context.plain_root hv
  have hverdict :
      rule.Verdict .utc (Moment.Below .utc) d ((date rule).parse (.universal locale) v .root) :=
    DateRule.verdict_below hrule hd hmoment
  refine ⟨hverdict, fun m _ => ⟨Moment.Below.le, Moment.Below.le⟩, fun hapart => ?_⟩
  exact hverdict.congr
    (fun least h => (hapart least (.inl h)).below_iff hd (hrule.lower h))
    fun most h => (hapart most (.inr h)).symm.below_iff (hrule.upper h) hd

/-- From the first of September to the last microsecond of November, by universal time. -/
def autumnRule : DateRule where
  min := some (.text "2022-09-01")
  max := some (.text "2022-11-30T23:59:59.999999Z")

theorem parse_date_verdict_autumnEvening : ∃ d : Moment,
    (autumnRule.Timed .utc ∧ (date {}).parse "en" (.text "2022-09-18T18:30:12+02:00") .root =
      .ok (.moment d) ∧ ¬ d.Unplaced .utc) ∧ d.instant = 1663518612000000 ∧
    (∀ m, autumnRule.Lower .utc m ∨ autumnRule.Upper .utc m → d.ToldApart m) ∧
    (date autumnRule).parse "en" (.text "2022-09-18T18:30:12+02:00") .root =
      .ok (.moment d) := by
  obtain ⟨first, hfirst, hclock, hstart⟩ : ∃ m, toMoment? .utc (.text "2022-09-01") = some m ∧
      ¬ m.Unplaced .utc ∧ m.instant = 1661990400000000 :=
    ⟨_, rfl, by decide +kernel, rfl⟩
  obtain ⟨last, hlast, hclock', hend⟩ :
      ∃ m, toMoment? .utc (.text "2022-11-30T23:59:59.999999Z") = some m ∧
        ¬ m.Unplaced .utc ∧ m.instant = 1669852799999999 :=
    ⟨_, rfl, by decide +kernel, rfl⟩
  obtain ⟨d, hinput, hday, hinstant⟩ : ∃ m,
      (date {}).parse "en" (.text "2022-09-18T18:30:12+02:00") .root = .ok (.moment m) ∧
        ¬ m.Unplaced .utc ∧ m.instant = 1663518612000000 :=
    ⟨_, rfl, by decide +kernel, by decide +kernel⟩
  have hlower : ∀ least, autumnRule.Lower .utc least → least = first := by
    rintro least ⟨bound, ⟨⟩, hleast⟩
    exact Option.some.inj (hleast.symm.trans hfirst)
  have hupper : ∀ most, autumnRule.Upper .utc most → most = last := by
    rintro most ⟨bound, ⟨⟩, hmost⟩
    exact Option.some.inj (hmost.symm.trans hlast)
  have hrule : autumnRule.Timed .utc := by
    constructor
    · rintro bound ⟨⟩
      exact ⟨first, hfirst, hclock⟩
    · rintro bound ⟨⟩
      exact ⟨last, hlast, hclock'⟩
  have hapart : ∀ m, autumnRule.Lower .utc m ∨ autumnRule.Upper .utc m → d.ToldApart m := by
    rintro m (hm | hm)
    · rw [hlower m hm]
      exact Moment.toldApart_of_far (by rw [hinstant, hstart]; norm_num)
    · rw [hupper m hm]
      exact Moment.toldApart_of_far (by rw [hinstant, hend]; norm_num)
  have hverdict := (parse_date_verdict hrule hinput hday).2.2 hapart
  refine ⟨d, ⟨hrule, hinput, hday⟩, hinstant, hapart, hverdict.eq_ok ?_ ?_⟩
  · intro least hleast
    rw [hlower least hleast, hinstant, hstart]
    decide
  · intro most hmost
    rw [hupper most hmost, hinstant, hend]
    decide

/-- From the second microsecond of the last second of the calendar. -/
def lastSecondRule : DateRule where
  min := some (.text "9999-12-31T23:59:59.000002")

theorem not_forall_parse_date_iff_instant :
    ¬ ∀ (rule : DateRule) (v : Value) (d : Moment), rule.Timed .utc →
      (date {}).parse "en" v .root = .ok (.moment d) → ¬ d.Unplaced .utc →
      ((date rule).parse "en" v .root = .ok (.moment d) ↔
        (∀ least, rule.Lower .utc least → least.instant ≤ d.instant) ∧
        ∀ most, rule.Upper .utc most → d.instant ≤ most.instant) := by
  intro h
  obtain ⟨d, bound, hinput, hbound, hday, hclock, hequal, hbefore⟩ : ∃ d bound : Moment,
      (date {}).parse "en" (.text "9999-12-31T23:59:59.000001") .root = .ok (.moment d) ∧
        toMoment? .utc (.text "9999-12-31T23:59:59.000002") = some bound ∧ ¬ d.Unplaced .utc ∧
        ¬ bound.Unplaced .utc ∧ momentBelow .utc d bound = .ok false ∧ d.instant < bound.instant :=
    ⟨_, _, rfl, rfl, by decide +kernel, by decide +kernel, by decide +kernel, by decide +kernel⟩
  have hlower : ∀ least, lastSecondRule.Lower .utc least → least = bound := by
    rintro least ⟨_, ⟨⟩, hleast⟩
    exact Option.some.inj (hleast.symm.trans hbound)
  have hrule : lastSecondRule.Timed .utc := by
    constructor
    · rintro _ ⟨⟩
      exact ⟨_, hbound, hclock⟩
    · rintro _ ⟨⟩
  have hnot : ¬ d.Below .utc bound := by
    obtain ⟨below, hbelow, hiff⟩ := Moment.exists_momentBelow hday hclock
    cases hbelow.symm.trans hequal
    exact fun h => absurd (hiff.mpr h) (by decide)
  have hmoment := toMoment?_of_parse_date Context.plain_root hinput
  have haccepted := (DateRule.verdict_below hrule hday hmoment).eq_ok
    (fun least hleast => hlower least hleast ▸ hnot) (by rintro most ⟨_, ⟨⟩, -⟩)
  have hle := ((h _ _ _ hrule hinput hday).mp haccepted).1 bound ⟨_, rfl, hbound⟩
  exact absurd hle (Int.not_le.mpr hbefore)

end Leaf

end Intake
