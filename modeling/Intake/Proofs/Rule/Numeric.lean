import Intake.Rule.Numeric
import Intake.Proofs.Numeric.Place
import Intake.Proofs.Rule.Text

/-!
# Numbers that rules accept

A rule for numbers accepts what it can read within its bounds.  What is read is never a
not-a-number, so it is taken as it is when it comes in again.

## Main definitions

* `NumberRule.Allows` — a number within bounds.

## Main statements

* `NumberRule.parse_eq_ok_iff` — when a number rule accepts.
* `NumberRule.parse_settles`, `NumberRule.parseInt_settles` — what a rule gives out, it takes in
  unchanged, unless it rounds.
-/

namespace Intake

open Outcome (bind_eq_ok check_bind_eq_ok ofFault_eq_ok)
open Numeric (Number Binary64 readNumber readNumberChars readInteger readReadable)

/-! ## Numbers in text -/

namespace Numeric

namespace Binary64

/-- The product of a finite number with a quotient is a number. -/
theorem isNaN_scaleBy {x : Binary64} (hx : x.isFinite = true) (negative : Bool) (num den : Nat) :
    (Number.float (x.scaleBy negative num den)).isNaN = false := by
  cases x with
  | finite sign mantissa exponent canonical =>
    rw [scaleBy]
    exact isNaN_ofRatio _ _ _
  | nan payload => cases hx
  | infinite sign => cases hx

end Binary64

/-- The product of a number with a factor that is not zero is a number. -/
theorem Number.isNaN_times {factor : Nat} (hfactor : factor ≠ 0) {n : Number}
    (h : n.isNaN = false) : (n.times factor).isNaN = false := by
  rcases n with n | x
  · rfl
  · cases x with
    | nan payload => cases h
    | infinite negative => simp [Number.times, Binary64.scaleBy, hfactor, Number.isNaN]
    | finite negative mantissa exponent canonical =>
      simp only [Number.times, Binary64.scaleBy, Binary64.isNaN_ofRatio]

theorem multiplier?_ne_zero {unit : Char} {factor : Nat} (h : multiplier? unit = some factor) :
    factor ≠ 0 := by
  unfold multiplier? at h
  split at h <;> simp_all <;> omega

/-- A text never writes not-a-number. -/
theorem isNaN_of_readNumberChars {cs : List Char} {n : Number}
    (h : readNumberChars cs = .ok (some n)) : n.isNaN = false := by
  unfold readNumberChars at h
  dsimp only at h
  split at h
  · cases h
  · split at h
    · obtain ⟨m, hm, heq⟩ := Outcome.map_eq_ok.mp h
      cases heq
      unfold readInteger at hm
      split at hm <;> cases hm
      rfl
    · split at h
      · cases h
      · cases h
      · rename_i x hx _
        cases h
        cases x with
        | nan payload => simp_all
        | _ => rfl

theorem readPlain_eq_ok {cs : List Char} {n : Option Number} (h : readPlain cs = .ok n) :
    readNumberChars cs = .ok n := by
  unfold readPlain at h
  cases hread : readNumberChars cs <;> rw [hread] at h <;> cases h
  rfl

theorem isNaN_of_readReadable {separator : Separator} {text : String} {n : Number}
    (h : readReadable separator text = .ok n) : n.isNaN = false := by
  unfold readReadable readWithUnit at h
  obtain ⟨read, hread, h⟩ := bind_eq_ok.mp h
  cases read with
  | some m =>
    cases h
    exact isNaN_of_readNumberChars (readPlain_eq_ok hread)
  | none =>
    dsimp only at h
    split at h
    · cases h
    · obtain ⟨read, hread, h⟩ := bind_eq_ok.mp h
      split at h
      · rename_i hfactor
        cases h
        exact Number.isNaN_times (multiplier?_ne_zero hfactor)
          (isNaN_of_readNumberChars (readPlain_eq_ok hread))
      · cases h
      · cases h

end Numeric

/-! ## Number rules -/

namespace NumberRule

variable {rule : NumberRule} {active : String} {v : Value} {ctx : Context} {n : Number}

/-- A number is within the bounds of a rule. -/
def Allows (rule : NumberRule) (n : Number) : Prop :=
  Clears rule.min n.lt ∧ Clears rule.max (·.lt n)

/-- Bounds compare numbers by their places. -/
theorem Allows.of_place?_eq {m n : Number} (h : rule.Allows m) (heq : m.place? = n.place?) :
    rule.Allows n := by
  unfold Allows Clears Number.lt at h ⊢
  rwa [← heq]

theorem checkBounds_eq_ok {expected : Value} :
    rule.checkBounds ctx expected n = .ok () ↔ rule.Allows n := by
  simp [checkBounds, Allows, Clears, bind_eq_ok, ofFault_eq_ok]

/-- A number, rounded if the rule rounds. -/
def settled (rule : NumberRule) (n : Number) : Number :=
  if rule.roundError.isTruthy then n.withoutNoise else n

/-- A rule accepts an input that it can read as a number within its bounds. -/
theorem parse_eq_ok_iff : rule.parse active v ctx = .ok n ↔
    ∃ m, rule.read active ctx (ctx.expected "number") v = .ok m ∧ rule.settled m = n ∧
      rule.Allows n := by
  have hparse : rule.parse active v ctx =
      rule.read active ctx (ctx.expected "number") v >>= fun m =>
        rule.checkBounds ctx (ctx.expected "number") (rule.settled m) >>= fun _ =>
        .ok (rule.settled m) := rfl
  rw [hparse, bind_eq_ok]
  refine exists_congr fun m => and_congr_right fun _ => ?_
  rw [check_bind_eq_ok, checkBounds_eq_ok]
  constructor
  · rintro ⟨hbounds, h⟩
    cases h
    exact ⟨rfl, hbounds⟩
  · rintro ⟨rfl, hbounds⟩
    exact ⟨hbounds, rfl⟩

/-- What is read is never a not-a-number. -/
theorem isNaN_of_read {expected : Value} (h : rule.read active ctx expected v = .ok n) :
    n.isNaN = false := by
  unfold read at h
  split at h
  · split at h
    · simp at h
    · cases h
      simp_all
  · split at h
    · simp at h
    · unfold readText at h
      split at h
      · obtain ⟨separator, -, h⟩ := bind_eq_ok.mp h
        split at h
        · rename_i hread
          cases h
          exact Numeric.isNaN_of_readReadable hread
        · simp at h
      · split at h
        · rename_i hread
          cases h
          exact Numeric.isNaN_of_readNumberChars hread
        · simp at h
        · cases h
  · simp at h

/-- A number is read as itself. -/
theorem read_number {expected : Value} (h : n.isNaN = false) :
    rule.read active ctx expected (.number n) = .ok n := by
  simp [read, h]

/-- A text that writes a number is not blank. -/
theorem trim_ne_empty_of_readNumber {s : String} (h : readNumber s = .ok (some n)) :
    (Text.trim s).isEmpty = false := by
  by_contra hblank
  have hempty : Text.trimChars s.toList = [] := by simpa [Text.trim] using hblank
  rw [readNumber, readNumberChars, hempty] at h
  cases h

/-- A text that writes a number is read as that number by a rule for plain numbers. -/
theorem read_text {expected : Value} {s : String} (hplain : rule.readable.isTruthy = false)
    (h : readNumber s = .ok (some n)) : rule.read active ctx expected (.text s) = .ok n := by
  simp only [read, trim_ne_empty_of_readNumber h, readText, hplain, h, Bool.false_eq_true, if_false]

/-- A rule that does not round takes in what it gives out. -/
theorem parse_settles (hround : rule.roundError.isTruthy = false)
    (h : rule.parse active v ctx = .ok n) : rule.parse active (.number n) ctx = .ok n := by
  obtain ⟨m, hread, hm, hbounds⟩ := parse_eq_ok_iff.mp h
  have hsettled : ∀ k, rule.settled k = k := fun k => by simp [settled, hround]
  rw [hsettled] at hm
  subst hm
  exact parse_eq_ok_iff.mpr ⟨m, read_number (isNaN_of_read hread), hsettled m, hbounds⟩

theorem parseInt_eq_ok_iff {k : Int} : rule.parseInt active v ctx = .ok k ↔
    ∃ n, rule.parse active v (ctx.overriding (ctx.expected "int")) = .ok n ∧
      (n = .int k ∨ ∃ x, n = .float x ∧ x.toInt? = some k) := by
  unfold parseInt
  dsimp only
  rw [bind_eq_ok]
  refine exists_congr fun n => and_congr_right fun _ => ?_
  cases n with
  | int m => simp
  | float x => cases hx : x.toInt? <;> simp [hx]

/-- The integer that stands for a number is within the bounds that the number is in. -/
theorem parseInt_settles {k : Int} (h : rule.parseInt active v ctx = .ok k) :
    rule.parseInt active (.int k) ctx = .ok k := by
  obtain ⟨n, hn, hk⟩ := parseInt_eq_ok_iff.mp h
  obtain ⟨m, -, -, hbounds⟩ := parse_eq_ok_iff.mp hn
  have hplace : n.place? = (Number.int k).place? := by
    rcases hk with rfl | ⟨x, rfl, hx⟩
    · rfl
    · exact Numeric.place?_of_toInt? hx
  refine parseInt_eq_ok_iff.mpr ⟨.int k, parse_eq_ok_iff.mpr ⟨.int k, ?_, ?_, ?_⟩, .inl rfl⟩
  · exact read_number rfl
  · simp [settled, Number.withoutNoise]
  · exact hbounds.of_place?_eq hplace

end NumberRule

end Intake
