import Intake.Proofs.Leaf.Sampled
import Intake.Proofs.Numeric.ReadBack

/-!
# Integers out of binary numbers

A rule for integers takes a whole binary number, or the text of one, for an integer.  The noise of
binary arithmetic is taken away first, so the integer is the number rounded to fifteen significant
digits; that is the number itself as long as no more digits than these are needed to say it.

## Main statements

* `NumberRule.parse_write` — the text of a finite number is accepted like the number.
* `Leaf.parse_int_rounds` — the integer that a whole binary number is taken for.
-/

namespace Intake

open Numeric (Number Binary64)

variable {locale : String} {ctx : Context}

/-- Without bounds the text of a finite number is accepted like the number. -/
theorem NumberRule.parse_write {x : Binary64} (hx : x.isFinite = true) :
    NumberRule.parse {} locale (.text x.write) ctx =
      .ok (.float (x.roundSignificant 15)) :=
  Leaf.numberRule_parse_text (Numeric.readNumber_write hx)

namespace Leaf

/-- A whole binary number and its text are taken for the integer that the number is once it has been
rounded to fifteen significant digits.  A number of at most so many digits, with zeros behind them,
is taken for itself. -/
theorem parse_int_rounds {x : Binary64} {n : Int} (setting : Setting) (ctx : Context)
    (hn : x.toInt? = some n) (hfinite : (x.roundSignificant 15).isFinite = true) :
    ∃ k, (x.roundSignificant 15).toInt? = some k ∧
      (Leaf.int {}).parse setting (.number (.float x)) ctx = .ok (.int k) ∧
      (Leaf.int {}).parse setting (.text x.write) ctx = .ok (.int k) ∧
      ∀ digits zeros, digits < 10 ^ 15 → n.natAbs = digits * 10 ^ zeros → k = n := by
  obtain ⟨k, hk⟩ := Binary64.exists_toInt?_roundSignificant hn hfinite
  have hx : x.isFinite = true := by
    cases x with
    | finite => rfl
    | _ => cases hn
  have hnumber : (Number.float x).isNaN = false := by
    cases x with
    | nan => cases hn
    | _ => rfl
  refine ⟨k, hk, parse_int_of_float hk fun _ => numberRule_parse hnumber,
    parse_int_of_float hk fun _ => NumberRule.parse_write hx, ?_⟩
  intro digits zeros hdigits hvalue
  rw [Binary64.roundSignificant_eq_self hn hdigits hvalue, hn] at hk
  exact (Option.some.inj hk).symm

/-- The number `10 ^ 22`, the largest power of ten that the format holds exactly. -/
def tenPow22 : Binary64 :=
  .finite false (5 ^ 22 * 2) 1095 (by decide)

theorem parse_int_rounds_tenPow22 : tenPow22.toInt? = some (10 ^ 22) ∧
    (Leaf.int {}).parse "en" (.text tenPow22.write) .root = .ok (.int (10 ^ 22)) := by
  have hvalue : tenPow22.toInt? = some (10 ^ 22) := by decide +kernel
  have hfinite : (tenPow22.roundSignificant 15).isFinite = true := by decide +kernel
  obtain ⟨k, -, -, htext, hexact⟩ := parse_int_rounds "en" .root hvalue hfinite
  obtain rfl : k = 10 ^ 22 := hexact 1 22 (by decide) (by decide)
  exact ⟨hvalue, htext⟩

/-- The number `2 ^ 53`, which has sixteen digits. -/
def twoPow53 : Binary64 :=
  .finite false (2 ^ 52) 1075 (by decide)

/-- Not every whole binary number is taken for itself. -/
theorem not_forall_parse_int_exact :
    ¬ ∀ (x : Binary64) (n : Int) (setting : Setting) (ctx : Context), x.toInt? = some n →
      (Leaf.int {}).parse setting (.number (.float x)) ctx = .ok (.int n) ∧
      (Leaf.int {}).parse setting (.text x.write) ctx = .ok (.int n) := by
  intro h
  have hrounded : (twoPow53.roundSignificant 15).toInt? = some 9007199254740990 := by
    decide +kernel
  have hparse : (Leaf.int {}).parse "en" (.number (.float twoPow53)) .root =
      .ok (.int 9007199254740990) :=
    parse_int_of_float hrounded fun _ => numberRule_parse rfl
  have hexact := (h twoPow53 9007199254740992 "en" .root (by decide +kernel)).1
  rw [hparse] at hexact
  cases hexact

end Leaf

end Intake
