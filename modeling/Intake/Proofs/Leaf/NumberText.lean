import Intake.Proofs.Leaf.Settled
import Intake.Proofs.Numeric.Fits
import Intake.Proofs.Numeric.Spelled

/-!
# Numbers as texts

A rule for texts writes numbers out, and a rule for numbers that does not round reads each of them
back.  A rule for integers reads every spelling of an integer as the integer, and so answers to the
text by its bounds as it answers to the integer.

## Main definitions

* `NumberRule.between` — the rule for what is between two bounds.
* `BreaksBound` — the answer to what is not.

## Main statements

* `Leaf.parse_number_of_string` — a number that a text rule wrote out is read back.
* `Leaf.parse_int_spelled` — an integer under bounds, however it is spelled.
-/

namespace Intake

open Outcome (bind_eq_ok map_eq_ok check_bind_eq_ok)
open Numeric (Number SpellsInteger TooLong)

/-! ## Numbers that were written out -/

section Written

variable {n : Number} {s : String}

/-- A text rule that asks for nothing writes a number out. -/
theorem TextRule.parse_number {ctx : Context} (hnan : n.isNaN = false) (h : n.write = .ok s) :
    TextRule.parse {} (.number n) ctx = .ok s := by
  have hread : TextRule.read ctx (ctx.expected "string") (.number n) = .ok s := by
    rw [TextRule.read, hnan, h]
    rfl
  exact TextRule.parse_eq_ok_iff.mpr
    ⟨_, rfl, rfl, hread, ⟨clears_none _, clears_none _⟩, rfl⟩

/-- A number rule without bounds that does not round takes a text for the number it writes. -/
theorem NumberRule.parse_exact {locale : String} {ctx : Context}
    (h : Numeric.readNumber s = .ok (some n)) :
    NumberRule.parse { roundError := .bool false } locale (.text s) ctx = .ok n := by
  have hallows : NumberRule.Allows { roundError := .bool false } n :=
    ⟨clears_none _, clears_none _⟩
  exact NumberRule.parse_eq_ok_iff.mpr ⟨n, NumberRule.read_text rfl h, rfl, hallows⟩

namespace Leaf

/-- What a text rule makes of a number, a number rule that does not round makes the number of again:
the number itself, or for a whole binary number below `10 ^ 21` the integer that it is equal to. -/
theorem parse_number_of_string (hnan : n.isNaN = false) (hn : ¬ n.Unwritable)
    (setting setting' : Setting) (ctx ctx' : Context) :
    (∃ s, (Leaf.string {}).parse setting (.number n) ctx = .ok (.text s) ∧
      (Leaf.number { roundError := .bool false }).parse setting' (.text s) ctx' =
        .ok (.number n.reread)) ∧
    n.reread.eq n = true := by
  obtain ⟨s, hwrite, hread⟩ := Number.exists_readNumber_write hnan hn
  refine ⟨⟨s, ?_, ?_⟩, Number.eq_reread hnan⟩
  · exact map_eq_ok.mpr ⟨s, TextRule.parse_number hnan hwrite, rfl⟩
  · exact map_eq_ok.mpr ⟨n.reread, NumberRule.parse_exact hread, rfl⟩

/-- Zero below zero is written as an integer. -/
theorem parse_number_of_string_negativeZero :
    (∃ s, (Leaf.string {}).parse "en" (.number (.float (.zero true))) .root = .ok (.text s) ∧
      (Leaf.number { roundError := .bool false }).parse "de" (.text s) .root =
        .ok (.number (.int 0))) ∧
    (Number.int 0).eq (.float (.zero true)) = true := by
  have hreread : (Number.float (.zero true)).reread = .int 0 := by decide +kernel
  have hread := @parse_number_of_string (.float (.zero true)) rfl Number.not_unwritable_float
    "en" "de" .root .root
  rwa [hreread] at hread

end Leaf

end Written

/-! ## Integers between bounds -/

/-- The rule for numbers between two integers, of which either may be missing. -/
def NumberRule.between (lo hi : Option Int) : NumberRule :=
  { min := lo.map Value.int, max := hi.map Value.int }

/-- The answer to a number that breaks a bound: a rejection that names the bound, or a fault if the
bound has too many digits to be named. -/
inductive BreaksBound (side : String) (bound : Int) {α : Type} : Outcome α → Prop
  | rejected {r : Rejection} (h : ¬ TooLong bound)
      (hreason : r.reason = side ++ " value should be " ++ Text.writeInt bound) :
      BreaksBound side bound (.error (.rejected r))
  | faulted (h : TooLong bound) :
      BreaksBound side bound (.error (.faulted (.digitLimit .writing)))

section Between

variable {lo hi : Option Int} {n : Int} {ctx : Context} {active side : String} {bound : Int}

theorem BreaksBound.map {α β : Type} {out : Outcome α} (h : BreaksBound side bound out)
    (f : α → β) : BreaksBound side bound (f <$> out) := by
  cases h with
  | rejected h hreason => exact .rejected h hreason
  | faulted h => exact .faulted h

theorem BreaksBound.bind {α β : Type} {out : Outcome α} (h : BreaksBound side bound out)
    (f : α → Outcome β) : BreaksBound side bound (out >>= f) := by
  cases h with
  | rejected h hreason => exact .rejected h hreason
  | faulted h => exact .faulted h

/-- What is found bad by a bound is answered so. -/
theorem breaksBound_rejectIf {type : String} (hctx : ctx.Plain) :
    BreaksBound side bound
      (ctx.rejectIf true (.text type) (boundReason side (.int bound))) := by
  have hreason : boundReason side (.int bound) =
      (side ++ " value should be " ++ ·) <$>
        (Numeric.writeInteger bound).mapError Fault.digitLimit := rfl
  rw [hreason, Context.rejectIf, if_pos rfl]
  by_cases h : TooLong bound
  · rw [Numeric.writeInteger_of_tooLong h]
    exact .faulted h
  · obtain ⟨message, hmessage⟩ := @Context.Plain.reject ctx Unit hctx type
      (side ++ " value should be " ++ Text.writeInt bound) []
    rw [Numeric.writeInteger_of_not_tooLong h, Outcome.mapError_ok, Outcome.map_ok,
      Outcome.ofFault_ok, Outcome.ok_bind, hmessage]
    exact .rejected h rfl

namespace NumberRule

/-- Both bounds are looked at, the lower one first. -/
theorem checkBounds_between {type : Value} : (between lo hi).checkBounds ctx type (.int n) =
    (checkGiven lo fun least =>
        ctx.rejectIf (n < least) type (boundReason "min" (.int least))) >>= fun _ =>
      checkGiven hi fun most => ctx.rejectIf (most < n) type (boundReason "max" (.int most)) := by
  have hbelow : ∀ least : Int, (do
      let m ← Outcome.ofFault (Value.int least).toNumber
      ctx.rejectIf ((Number.int n).lt m) type (boundReason "min" (.int least))) =
      ctx.rejectIf (n < least) type (boundReason "min" (.int least)) := by
    intro least
    rw [← Number.lt_int]
    rfl
  have habove : ∀ most : Int, (do
      let m ← Outcome.ofFault (Value.int most).toNumber
      ctx.rejectIf (m.lt (.int n)) type (boundReason "max" (.int most))) =
      ctx.rejectIf (most < n) type (boundReason "max" (.int most)) := by
    intro most
    rw [← Number.lt_int]
    rfl
  rw [← funext hbelow, ← funext habove]
  cases lo <;> cases hi <;> rfl

theorem checkBounds_between_eq_ok {type : Value} :
    (between lo hi).checkBounds ctx type (.int n) = .ok () ↔
      (∀ least ∈ lo, least ≤ n) ∧ ∀ most ∈ hi, n ≤ most := by
  simp [checkBounds_between, check_bind_eq_ok]

theorem breaksBound_below {type : String} {least : Int} (hctx : ctx.Plain) (hleast : least ∈ lo)
    (h : n < least) :
    BreaksBound "min" least ((between lo hi).checkBounds ctx (.text type) (.int n)) := by
  cases hleast
  rw [checkBounds_between, checkGiven, decide_eq_true h]
  exact (breaksBound_rejectIf hctx).bind _

theorem breaksBound_above {type : String} {most : Int} (hctx : ctx.Plain) (hmost : most ∈ hi)
    (h : most < n) (hlo : ∀ least ∈ lo, least ≤ n) :
    BreaksBound "max" most ((between lo hi).checkBounds ctx (.text type) (.int n)) := by
  cases hmost
  have hlow : (checkGiven lo fun least =>
      ctx.rejectIf (n < least) (.text type) (boundReason "min" (.int least))) = .ok () := by
    simpa using hlo
  rw [checkBounds_between, hlow, Outcome.ok_bind, checkGiven, decide_eq_true h]
  exact breaksBound_rejectIf hctx

/-- What is read as an integer is only held against the bounds. -/
theorem parseInt_of_read {rule : NumberRule} {v : Value}
    (h : ∀ ctx type, rule.read active ctx type v = .ok (.int n)) :
    rule.parseInt active v ctx = rule.checkBounds (ctx.overriding (ctx.expected "int"))
      ((ctx.overriding (ctx.expected "int")).expected "number") (.int n) >>= fun _ => .ok n := by
  have hparse : ∀ inner : Context, rule.parse active v inner =
      rule.checkBounds inner (inner.expected "number") (.int n) >>= fun _ => .ok (.int n) := by
    intro inner
    rw [parse, h]
    simp only [Outcome.ok_bind, Number.withoutNoise, ite_self]
    rfl
  have hint : rule.parseInt active v ctx =
      rule.parse active v (ctx.overriding (ctx.expected "int")) >>= _ := rfl
  rw [hint, hparse, bind_assoc]
  rfl

end NumberRule

namespace Leaf

theorem parse_int_of_read {setting : Setting} {v : Value}
    (h : ∀ ctx type, (NumberRule.between lo hi).read setting.locale ctx type v = .ok (.int n)) :
    (Leaf.int (.between lo hi)).parse setting v ctx = (fun _ => .int n) <$>
      (NumberRule.between lo hi).checkBounds (ctx.overriding (ctx.expected "int"))
        ((ctx.overriding (ctx.expected "int")).expected "number") (.int n) := by
  rw [Leaf.parse, NumberRule.parseInt_of_read h]
  cases (NumberRule.between lo hi).checkBounds _ _ _ <;> rfl

/-- However an integer is spelled, a rule for integers answers to the text as to the integer: it
gives the integer out if it is between the bounds, and else names the bound that is broken, the
lower one first. -/
theorem parse_int_spelled {text : String} (h : SpellsInteger text n) (hctx : ctx.Plain)
    (setting : Setting) (lo hi : Option Int) :
    ∃ out, (Leaf.int (.between lo hi)).parse setting (.text text) ctx = out ∧
      (Leaf.int (.between lo hi)).parse setting (.int n) ctx = out ∧
      (out = .ok (.int n) ↔ (∀ least ∈ lo, least ≤ n) ∧ ∀ most ∈ hi, n ≤ most) ∧
      (∀ least ∈ lo, n < least → BreaksBound "min" least out) ∧
      ∀ most ∈ hi, most < n → (∀ least ∈ lo, least ≤ n) → BreaksBound "max" most out := by
  have hinner := hctx.overriding_expected "int"
  obtain ⟨type, htype⟩ := hinner.expected "number"
  refine ⟨_, parse_int_of_read fun _ _ => NumberRule.read_text rfl h.readNumber,
    parse_int_of_read fun _ _ => NumberRule.read_number rfl, ?_, ?_, ?_⟩
  · simp [map_eq_ok, NumberRule.checkBounds_between_eq_ok]
  · intro least hleast hn
    rw [htype]
    exact (NumberRule.breaksBound_below hinner hleast hn).map _
  · intro most hmost hn hlo
    rw [htype]
    exact (NumberRule.breaksBound_above hinner hmost hn hlo).map _

theorem parse_int_spelled_agent : ∃ r,
    (Leaf.int (.between (some 0) (some 9))).parse "en" (.text " -007 ") .root =
      .error (.rejected r) ∧ r.reason = "min value should be 0" := by
  have hspells : Numeric.Spells ['0', '0', '7'] 7 :=
    @Numeric.spells_zeros_append 2 7 (by decide)
  have hblank : ∀ c ∈ [' '], Text.isBlank c = true := List.forall_mem_singleton.mpr (by decide)
  have htext : SpellsInteger " -007 " (-7) :=
    @SpellsInteger.intro _ [' '] _ [' '] _ .minus hblank hspells hblank rfl
  obtain ⟨out, hout, -, -, hbelow, -⟩ :=
    parse_int_spelled htext Context.plain_root "en" (some 0) (some 9)
  rw [hout]
  cases hbelow 0 rfl (by decide) with
  | rejected _ hreason => exact ⟨_, rfl, hreason⟩
  | faulted h => exact absurd h (Numeric.not_tooLong_of_lt (by decide))

/-- A bound of too many digits is not named. -/
theorem not_forall_parse_int_rejected : ¬ ∀ (text : String) (n least : Int),
    SpellsInteger text n → n < least → ∃ r,
      (Leaf.int (.between (some least) none)).parse "en" (.text text) .root =
        .error (.rejected r) ∧ r.reason = "min value should be " ++ Text.writeInt least := by
  intro hall
  have hpos : (0 : Int) < 10 ^ Numeric.maxDigits := by positivity
  have hspelled : SpellsInteger (Text.writeInt 0) 0 :=
    Numeric.spellsInteger_writeInt (Numeric.not_tooLong_of_lt (by decide))
  have hlong := Numeric.tooLong_tenPow
  generalize (10 : Int) ^ Numeric.maxDigits = least at hpos hlong
  obtain ⟨r, hparse, -⟩ := hall _ 0 least hspelled hpos
  rw [parse_int_of_read fun _ _ => NumberRule.read_text rfl hspelled.readNumber] at hparse
  have hbelow : BreaksBound "min" least (.error (.rejected r) : Outcome Value) :=
    hparse ▸ (NumberRule.breaksBound_below
      (Context.plain_root.overriding_expected "int") rfl hpos).map _
  cases hbelow with
  | rejected h => exact h hlong

end Leaf

end Between

end Intake
