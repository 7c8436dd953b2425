import Intake.Proofs.Numeric.Hyphens
import Intake.Proofs.Rule.Numeric

/-!
# Rules for numbers written for people

A rule that reads numbers written for people takes every plain number too, but skips its hyphens:
it answers as a rule for plain numbers does on the text without them.

## Main definitions

* `NumberRule.plain` — a rule that reads plain numbers only.

## Main statements

* `NumberRule.readReadable_plainNumber` — plain numbers under both kinds of rules.
-/

namespace Intake.NumberRule

open Numeric (Number decimalSeparator readNumber readReadable withoutHyphens)

variable {rule : NumberRule} {active text : String} {ctx : Context} {n : Number}

/-- The rule with the same bounds that reads plain numbers only. -/
def plain (rule : NumberRule) : NumberRule :=
  { rule with readable := .bool false }

theorem read_plain {expected : Value} (h : readNumber text = .ok (some n)) :
    rule.plain.read active ctx expected (.text text) = .ok n :=
  read_text rfl h

theorem read_readable {expected : Value} {m : Number} {separator : Numeric.Separator}
    (hread : readNumber text = .ok (some n)) (hreadable : rule.readable.isTruthy = true)
    (hseparator : rule.separator active = .ok separator)
    (h : readReadable separator text = .ok m) :
    rule.read active ctx expected (.text text) = .ok m := by
  simp only [read, trim_ne_empty_of_readNumber hread, readText, hreadable, hseparator,
    Outcome.ofFault_ok, Outcome.ok_bind, h, Bool.false_eq_true, if_false, if_true]
  rfl

/-- A rule asks the same of a number however it was written. -/
theorem parse_eq_plain {v w : Value}
    (h : ∀ expected, rule.read active ctx expected v = rule.plain.read active ctx expected w) :
    rule.parse active v ctx = rule.plain.parse active w ctx := by
  unfold parse
  simp only [h]
  rfl

/-- Where the decimal mark is a point, a plain number is read for people as the plain number that
is left of it without its hyphens, by the readers and by the rules. -/
theorem readReadable_plainNumber {locale : String} (hpoint : decimalSeparator locale = .point)
    (hread : readNumber text = .ok (some n)) :
    (∃ m, readNumber (withoutHyphens text) = .ok (some m) ∧
      readReadable (decimalSeparator locale) text = .ok m ∧
      ('-' ∉ text.toList → m = n) ∧
      ∀ rest, Text.trimChars text.toList = '-' :: rest → '-' ∉ rest → m = n.unsigned) ∧
    ∀ (rule : NumberRule) (active : String) (ctx : Context),
      rule.readable.isTruthy = true → rule.separator active = .ok .point →
        rule.parse active (.text text) ctx =
            rule.plain.parse active (.text (withoutHyphens text)) ctx ∧
          ('-' ∉ text.toList →
            rule.parse active (.text text) ctx = rule.plain.parse active (.text text) ctx) := by
  obtain ⟨m, hleft, hpeople⟩ := Numeric.exists_readReadable_point hread
  have hparse : ∀ (rule : NumberRule) (active : String) (ctx : Context),
      rule.readable.isTruthy = true → rule.separator active = .ok .point →
        rule.parse active (.text text) ctx =
          rule.plain.parse active (.text (withoutHyphens text)) ctx := by
    intro rule active ctx hreadable hseparator
    exact parse_eq_plain fun expected =>
      (read_readable hread hreadable hseparator hpeople).trans (read_plain hleft).symm
  refine ⟨⟨m, hleft, hpoint ▸ hpeople, fun hnone => ?_, fun rest htrim hrest => ?_⟩,
    fun rule active ctx hreadable hseparator =>
      ⟨hparse rule active ctx hreadable hseparator, fun hnone => ?_⟩⟩
  · rw [Numeric.withoutHyphens_eq_self hnone, hread] at hleft
    cases hleft
    rfl
  · rw [Numeric.readNumber_unsigned hread htrim hrest] at hleft
    cases hleft
    rfl
  · rw [hparse rule active ctx hreadable hseparator, Numeric.withoutHyphens_eq_self hnone]

/-- A rule for temperatures, as people write them. -/
def temperature : NumberRule :=
  { min := some (.int 0), readable := .bool true }

theorem readReadable_plainNumber_frost :
    readReadable (decimalSeparator "en") " -12 " = .ok (.int 12) ∧
    temperature.parse "en" (.text " -12 ") .root =
      temperature.plain.parse "en" (.text " 12 ") .root := by
  have hread : readNumber " -12 " = .ok (some (.int (-12))) := by rfl
  have hpoint : decimalSeparator "en" = .point := by decide
  obtain ⟨⟨m, -, hm, -, hunsigned⟩, hrule⟩ := readReadable_plainNumber hpoint hread
  refine ⟨?_, (hrule temperature "en" .root rfl (by decide)).1⟩
  rw [hm, hunsigned "12".toList (by decide) (by decide)]
  rfl

/-- For people the sign of a number is not read. -/
theorem not_forall_readReadable_eq : ¬ ∀ (locale text : String) (n : Number),
    decimalSeparator locale = .point → readNumber text = .ok (some n) →
      readReadable (decimalSeparator locale) text = .ok n := by
  intro h
  have hfive := h "en" "-5" (.int (-5)) (by decide) rfl
  have hread : readReadable (decimalSeparator "en") "-5" = .ok (.int 5) := rfl
  cases hread.symm.trans hfive

end Intake.NumberRule
