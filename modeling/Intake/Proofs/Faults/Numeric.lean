import Intake.Proofs.Faults.Text
import Intake.Proofs.Rule.Numeric

/-!
# Where rules for numbers fault

A rule for numbers does not read a text of too many digits unless it reads as people do, and it
does not show a bound of too many digits.  A rule for binary numbers also has no place for an
integer that is too large, and rounds no further than its machinery goes.

## Main definitions

* `NumberRule.Sound`, `FloatRule.Sound` — rules whose options are of use.
* `NumberRule.Breaks`, `FloatRule.Breaks` — the inputs on which they fault.

## Main statements

* `NumberRule.faults_parse`, `NumberRule.faults_parseInt`, `FloatRule.faults_parse` — they fault on
  those and on no others.
-/

namespace Intake

open Outcome (Alike faults_bind faults_map faults_ofFault bind_eq_ok ofFault_eq_ok)
open Numeric (Number Binary64 TooLong WritesTooLong readNumber readReadable)

variable {ctx : Context} {type : Value}

/-! ## Numbers -/

namespace NumberRule

variable {rule : NumberRule} {active : String} {v : Value} {n : Number}

/-- The bounds of a rule are numbers, and its locale has a name if it has one at all. -/
structure Sound (rule : NumberRule) : Prop where
  min : ∀ bound ∈ rule.min, bound.IsNumeric
  max : ∀ bound ∈ rule.max, bound.IsNumeric
  locale : ∀ locale ∈ rule.locale, locale.isTruthy = true → ∃ s, locale = .text s

/-- The number that a rule reads from an input. -/
def Reads (rule : NumberRule) (active : String) (v : Value) (n : Number) : Prop :=
  rule.read active .root (.text "number") v = .ok n

/-- A number breaks a bound that cannot be shown. -/
def BoundsChoke (rule : NumberRule) (n : Number) : Prop :=
  Chokes rule.min n.lt ∨ Clears rule.min n.lt ∧ Chokes rule.max (·.lt n)

/-- The inputs on which a rule faults: a text of too many digits, and a number that breaks a bound
that is not shown. -/
def Breaks (rule : NumberRule) (active : String) (v : Value) : Prop :=
  (rule.readable.isTruthy = false ∧ ∃ s, v = .text s ∧ WritesTooLong s) ∨
    ∃ n, rule.Reads active v n ∧ rule.BoundsChoke (rule.settled n)

theorem faults_checkBounds (hrule : rule.Sound) (hctx : ctx.Plain) (htype : ∃ t, type = .text t) :
    (rule.checkBounds ctx type n).Faults ↔ rule.BoundsChoke n := by
  have hreason : ∀ (name : String) (bound : Value), bound.IsNumeric →
      ((∃ fault, boundReason name bound = .error fault) ↔ ∃ n, bound = .int n ∧ TooLong n) := by
    intro name bound hbound
    rw [← Value.exactText_eq_error_iff hbound]
    exact Outcome.exists_map_eq_error
  rw [checkBounds, BoundsChoke]
  rw [faults_bind, faults_checkBound hctx htype hrule.min (hreason _)]
  simp only [Outcome.exists_unit, faults_checkBound hctx htype hrule.max (hreason _)]
  simp [Clears, bind_eq_ok, ofFault_eq_ok]

theorem exists_separator (hrule : rule.Sound) (active : String) :
    ∃ separator, rule.separator active = .ok separator := by
  rw [separator]
  split
  · rename_i locale hlocale
    split
    · rename_i htruthy
      obtain ⟨s, rfl⟩ := hrule.locale locale hlocale htruthy
      exact ⟨_, rfl⟩
    · exact ⟨_, rfl⟩
  · exact ⟨_, rfl⟩

/-- Blank text writes no number. -/
theorem not_writesTooLong_of_blank {s : String} (h : (Text.trim s).isEmpty = true) :
    ¬ WritesTooLong s := by
  have htrim : Text.trimChars s.toList = [] := by simpa [Text.trim] using h
  rw [WritesTooLong]
  rw [htrim]
  simp [Numeric.splitSign, Numeric.isDigits]

theorem faults_read (hrule : rule.Sound) (hctx : ctx.Plain) (htype : ∃ t, type = .text t) :
    (rule.read active ctx type v).Faults ↔
      rule.readable.isTruthy = false ∧ ∃ s, v = .text s ∧ WritesTooLong s := by
  have hreject : ∀ v, ¬ (ctx.rejectKind type v : Outcome Number).Faults :=
    fun v => hctx.not_faults_reject htype _
  simp only [NumberRule.read]
  split
  · split <;> simp [hreject]
  · rename_i s
    split
    · rename_i hblank
      simp [hreject, not_writesTooLong_of_blank hblank]
    · rw [readText]
      split
      · rename_i hreadable
        obtain ⟨separator, hseparator⟩ := exists_separator hrule active
        rw [hseparator, Outcome.ofFault_ok, Outcome.ok_bind]
        split <;> simp [hreadable, hctx.not_faults_reject htype]
      · rename_i hreadable
        have hlong : (∃ e, readNumber s = .error e) ↔ WritesTooLong s :=
          Numeric.readNumber_eq_error_iff
        split <;> simp_all
  · simp [hreject]
    rintro - s rfl
    simp_all

/-- What a rule reads does not depend on the context. -/
theorem read_eq_ok_iff (hctx : ctx.Plain) (htype : ∃ t, type = .text t) :
    rule.read active ctx type v = .ok n ↔ rule.Reads active v n :=
  (rule.alike_read active hctx Context.plain_root htype ⟨_, rfl⟩ v).eq_ok_iff n

/-- A sound rule faults on the inputs that break it, and on no others. -/
theorem faults_parse (hrule : rule.Sound) (hctx : ctx.Plain) :
    (rule.parse active v ctx).Faults ↔ rule.Breaks active v := by
  have htype := hctx.expected "number"
  rw [NumberRule.parse, Breaks]
  simp only [faults_bind, faults_read hrule hctx htype, read_eq_ok_iff hctx htype,
    faults_checkBounds hrule hctx htype, Outcome.exists_unit, Outcome.pure_eq_ok,
    Outcome.not_faults_ok, and_false, or_false]
  rfl

theorem faults_parseInt (hrule : rule.Sound) (hctx : ctx.Plain) :
    (rule.parseInt active v ctx).Faults ↔ rule.Breaks active v := by
  unfold parseInt
  dsimp only
  rw [faults_bind, faults_parse hrule (hctx.overriding_expected "int"), or_iff_left_iff_imp]
  rintro ⟨n, -, h⟩
  split at h
  · simp at h
  · split at h
    · simp at h
    · exact absurd h (hctx.not_faults_reject (hctx.expected "int") _)

end NumberRule

theorem idRule_sound : idRule.Sound :=
  ⟨by simp [idRule, Value.IsNumeric, Value.int, Value.asNumber?], by simp [idRule],
    by simp [idRule]⟩

/-! ## Binary numbers -/

/-- A binary number is rounded to decimal places, unless it has digits beyond a place that is too
far before the point. -/
theorem roundPlacesBy_eq_error_iff {k : Int} {x : Binary64} :
    (∃ fault, roundPlacesBy (.int k) x = .error fault) ↔
      ∃ lastPlace, x.lastPlace? = some lastPlace ∧ k < -lastPlace ∧ k < -highestPower := by
  rw [roundPlacesBy]
  cases x.lastPlace? with
  | none => simp
  | some lastPlace =>
    have hk : (Value.int k).toNumber = .ok (.int k) := rfl
    simp only [roundingPower?, hk, Outcome.ok_bind, Option.some.injEq, exists_eq_left']
    by_cases hplace : -lastPlace ≤ k
    · simp [hplace, Int.not_lt.mpr hplace]
    · have hplace' : k < -lastPlace := by omega
      rw [if_neg hplace]
      by_cases hfar : furthestPower < -k
      · have : k < -highestPower := by
          rw [furthestPower] at hfar
          rw [highestPower]
          omega
        rw [if_pos hfar]
        exact ⟨fun _ => ⟨hplace', this⟩, fun _ => ⟨_, rfl⟩⟩
      · rw [if_neg hfar]
        by_cases hhigh : highestPower < -k
        · have : k < -highestPower := by omega
          rw [if_pos hhigh]
          exact ⟨fun _ => ⟨hplace', this⟩, fun _ => ⟨_, rfl⟩⟩
        · have : ¬ k < -highestPower := by omega
          rw [if_neg hhigh]
          simp [this]

/-- A binary number is rounded to a count of digits, unless the count is too large. -/
theorem roundSignificantBy_eq_error_iff {k : Nat} {x : Binary64} :
    (∃ fault, roundSignificantBy (.int k) x = .error fault) ↔ 2 ^ 31 ≤ k := by
  have hdisplay : (Value.int k).display = Value.numberLiteral (.int k) := rfl
  rw [roundSignificantBy]
  rw [hdisplay, Value.numberLiteral, Number.writeLiteral]
  by_cases hlong : TooLong k
  · have : 2 ^ 31 ≤ k :=
      calc 2 ^ 31 ≤ 10 ^ 31 := Nat.pow_le_pow_left (by decide) _
        _ ≤ 10 ^ Numeric.maxDigits := Nat.pow_le_pow_right (by decide) (by decide)
        _ ≤ k := hlong
    rw [Numeric.writeInteger_of_tooLong hlong]
    exact ⟨fun _ => this, fun _ => ⟨_, rfl⟩⟩
  · rw [Numeric.writeInteger_of_not_tooLong hlong]
    simp only [Outcome.mapError_ok, Outcome.ok_bind, Numeric.toList_writeInt_natCast,
      Numeric.Layout.read_digits]
    by_cases hlarge : 2 ^ 63 ≤ k
    · have : 2 ^ 31 ≤ k := by omega
      rw [if_pos hlarge]
      exact ⟨fun _ => this, fun _ => ⟨_, rfl⟩⟩
    · rw [if_neg hlarge]
      by_cases hk : 2 ^ 31 ≤ k
      · rw [if_pos hk]
        exact ⟨fun _ => hk, fun _ => ⟨_, rfl⟩⟩
      · rw [if_neg hk]
        constructor
        · rintro ⟨fault, h⟩
          simp [roundByLayout] at h
        · intro h
          exact absurd h hk

namespace FloatRule

variable {rule : FloatRule} {active : String} {v : Value} {x : Binary64}

/-- The counts of a rule are integers, and that of significant digits is not negative. -/
structure Sound (rule : FloatRule) : Prop where
  number : rule.number.Sound
  toFixed : ∀ places ∈ rule.toFixed, ∃ k : Int, places = .int k
  toPrecision : ∀ count ∈ rule.toPrecision, ∃ k : Nat, count = .int k

/-- A rule asks for a rounding that goes too far: to places that are a million digits away from the
point where there is something to round, or to so many digits that they are not counted. -/
def GoesTooFar (rule : FloatRule) (x : Binary64) : Prop :=
  (∃ k lastPlace, rule.toFixed = some (.int k) ∧ x.lastPlace? = some lastPlace ∧
    k < -lastPlace ∧ k < -highestPower) ∨
  ∃ k : Nat, rule.toPrecision = some (.int k) ∧ 2 ^ 31 ≤ k

/-- The inputs on which a rule faults: those on which its rule for numbers does, integers that are
too large for a binary number, and numbers whose rounding goes too far. -/
def Breaks (rule : FloatRule) (active : String) (v : Value) : Prop :=
  rule.number.Breaks active v ∨ ∃ n, rule.number.parse active v .root = .ok n ∧
    (n.toBinary64? = none ∨ ∃ x, n.toBinary64? = some x ∧ rule.GoesTooFar x)

/-- A number is rounded to places first, and what that leaves to significant digits. -/
theorem cut_eq (rule : FloatRule) (x : Binary64) :
    rule.cut x = rule.toFixed.elim (.ok x) (roundPlacesBy · x) >>= fun y =>
      rule.toPrecision.elim (.ok y) (roundSignificantBy · y) := by
  rw [cut]
  cases rule.toFixed <;> cases rule.toPrecision <;> rfl

theorem significant_eq_error_iff (hrule : rule.Sound) :
    (∃ fault, rule.toPrecision.elim (.ok x) (roundSignificantBy · x) = .error fault) ↔
      ∃ k : Nat, rule.toPrecision = some (.int k) ∧ 2 ^ 31 ≤ k := by
  cases hcount : rule.toPrecision with
  | none => simp
  | some count =>
    obtain ⟨k, rfl⟩ := hrule.toPrecision count hcount
    rw [Option.elim_some, roundSignificantBy_eq_error_iff]
    constructor
    · intro hk
      exact ⟨k, rfl, hk⟩
    · rintro ⟨k', heq, hk'⟩
      cases heq
      exact hk'

theorem cut_eq_error_iff (hrule : rule.Sound) :
    (∃ fault, rule.cut x = .error fault) ↔ rule.GoesTooFar x := by
  rw [cut_eq, GoesTooFar]
  cases hplaces : rule.toFixed with
  | none => simpa using significant_eq_error_iff hrule
  | some places =>
    obtain ⟨k, rfl⟩ := hrule.toFixed places hplaces
    have hfirst := @roundPlacesBy_eq_error_iff k x
    rw [Option.elim_some]
    cases hround : roundPlacesBy (.int k) x with
    | error fault =>
      rw [hround] at hfirst
      obtain ⟨lastPlace, h⟩ := hfirst.mp ⟨fault, rfl⟩
      exact ⟨fun _ => .inl ⟨k, lastPlace, rfl, h⟩, fun _ => ⟨fault, rfl⟩⟩
    | ok y =>
      rw [hround] at hfirst
      rw [Outcome.ok_bind, significant_eq_error_iff hrule, or_iff_right]
      rintro ⟨_, lastPlace, heq, h⟩
      cases heq
      simpa using hfirst.mpr ⟨lastPlace, h⟩

/-- A sound rule faults on the inputs that break it, and on no others. -/
theorem faults_parse (hrule : rule.Sound) {ctx : Context} (hctx : ctx.Plain) :
    (rule.parse active v ctx).Faults ↔ rule.Breaks active v := by
  have hfloat := hctx.overriding_expected "float"
  rw [FloatRule.parse, Breaks]
  rw [faults_bind, NumberRule.faults_parse hrule.number hfloat]
  refine or_congr_right (exists_congr fun n => ?_)
  rw [(rule.number.contextFree_parse active hfloat Context.plain_root v).eq_ok_iff n]
  refine and_congr_right fun _ => ?_
  cases n.toBinary64? with
  | none => simp
  | some x => simp [faults_ofFault, cut_eq_error_iff hrule]

end FloatRule

end Intake
