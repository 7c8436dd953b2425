import Intake.Numeric.Reading
import Intake.Numeric.Binary64.Field
import Intake.Proofs.Numeric.Place
import Intake.Proofs.Numeric.Written
import Intake.Proofs.Outcome
import Intake.Proofs.Text.Blank
import Mathlib.Data.List.TakeWhile

/-!
# The limit on digits

Integers of more than 4300 digits are neither written nor read, which is a fault rather than a
rejection.  These statements say exactly which numbers and which texts are concerned, and that a
binary number never is.

## Main definitions

* `TooLong` — an integer that is not written.
* `WritesTooLong` — a text of digits that is not read.

## Main statements

* `writeInteger_eq_error_iff`, `Number.write_eq_error_iff` — which numbers are not written.
* `readNumber_eq_error_iff` — which texts are not read.
* `Layout.read_digits` — the counts of digits that are of use.
-/

namespace Intake.Numeric

/-! ## Writing -/

/-- An integer of more digits than are written. -/
def TooLong (n : Int) : Prop :=
  10 ^ maxDigits ≤ n.natAbs

theorem tooLong_tenPow : TooLong (10 ^ maxDigits) := by
  have hpow : ∀ n, 10 ^ n ≤ ((10 : Int) ^ n).natAbs := fun n => (Int.natAbs_pow 10 n).ge
  exact hpow maxDigits

theorem length_digits_le_iff {n : Nat} : (Text.digits n).length ≤ maxDigits ↔ n < 10 ^ maxDigits :=
  Nat.length_toDigits_le_iff (by decide) (by decide)

theorem writeInteger_of_not_tooLong {n : Int} (h : ¬ TooLong n) :
    writeInteger n = .ok (Text.writeInt n) :=
  if_pos (length_digits_le_iff.mpr (Nat.lt_of_not_le h))

theorem writeInteger_of_tooLong {n : Int} (h : TooLong n) : writeInteger n = .error .writing :=
  if_neg fun hlength => Nat.not_lt_of_le h (length_digits_le_iff.mp hlength)

theorem writeInteger_eq_error_iff {n : Int} : (∃ e, writeInteger n = .error e) ↔ TooLong n := by
  by_cases h : TooLong n
  · simp [writeInteger_of_tooLong h, h]
  · simp [writeInteger_of_not_tooLong h, h]

namespace Number

/-- A number that is not written: an integer of too many digits. -/
def Unwritable (n : Number) : Prop :=
  ∃ i, n = .int i ∧ TooLong i

@[simp] theorem unwritable_int {i : Int} : (Number.int i).Unwritable ↔ TooLong i := by
  simp [Unwritable]

@[simp] theorem not_unwritable_float {x : Binary64} : ¬ (Number.float x).Unwritable := by
  simp [Unwritable]

theorem write_eq_error_iff {n : Number} : (∃ e, n.write = .error e) ↔ n.Unwritable := by
  rcases n with i | x
  · simpa [write] using writeInteger_eq_error_iff
  · rcases x with payload | negative | ⟨negative, mantissa, exponent, canonical⟩
    all_goals simp only [write, not_unwritable_float, iff_false, not_exists]
    all_goals intro e he
    all_goals repeat' split at he
    all_goals cases he

theorem writeJson_eq_error_iff {n : Number} : (∃ e, n.writeJson = .error e) ↔ n.Unwritable := by
  rcases n with i | x
  · simpa [writeJson] using writeInteger_eq_error_iff
  · rcases x with payload | negative | ⟨negative, mantissa, exponent, canonical⟩ <;>
      simp [writeJson]

theorem writeLiteral_eq_error_iff {n : Number} :
    (∃ e, n.writeLiteral = .error e) ↔ n.Unwritable := by
  rcases n with i | x
  · simpa [writeLiteral] using writeInteger_eq_error_iff
  · simp [writeLiteral]

end Number

/-! ## Reading -/

/-- A text of a sign and more digits than are read. -/
def WritesTooLong (text : String) : Prop :=
  let digits := (splitSign (Text.trimChars text.toList)).2
  isDigits digits = true ∧ maxDigits < digits.length

/-- Neither a sign nor a digit is a low line. -/
theorem not_contains_of_isDigits {cs : List Char} (h : isDigits (splitSign cs).2 = true) :
    cs.isEmpty = false ∧ cs.contains '_' = false := by
  have hdigit : Text.isDigit '_' = false := by decide
  have hline : ∀ {ds : List Char}, isDigits ds = true → '_' ∉ ds := by
    intro ds hds hmem
    simp only [isDigits, Bool.and_eq_true, List.all_eq_true] at hds
    rw [hds.2 _ hmem] at hdigit
    cases hdigit
  unfold splitSign at h
  split at h
  · exact ⟨rfl, by simp [hline h]⟩
  · exact ⟨rfl, by simp [hline h]⟩
  · refine ⟨?_, by simp [hline h]⟩
    simp only [isDigits, Bool.and_eq_true, Bool.not_eq_true'] at h
    exact h.1

theorem readNumber_eq_error_iff {text : String} :
    (∃ e, readNumber text = .error e) ↔ WritesTooLong text := by
  unfold readNumber readNumberChars WritesTooLong
  dsimp only
  by_cases hdigits : isDigits (splitSign (Text.trimChars text.toList)).2 = true
  · obtain ⟨hempty, hline⟩ := not_contains_of_isDigits hdigits
    simp only [hempty, hline, Bool.or_self, Bool.false_eq_true, if_false, hdigits, if_true,
      true_and, readInteger]
    split
    · rename_i hle
      simp [Except.map, Nat.not_lt_of_le hle]
    · rename_i hlt
      simp [Except.map, Nat.lt_of_not_le hlt]
  · simp only [hdigits, false_and, iff_false, not_exists, Bool.false_eq_true, if_false]
    intro e he
    split at he
    · cases he
    · split at he <;> cases he

theorem splitSign_eq_self {cs : List Char} (h : ∀ c ∈ cs.head?, c ≠ '+' ∧ c ≠ '-') :
    splitSign cs = (false, cs) := by
  unfold splitSign
  split
  · exact absurd rfl (h '+' rfl).1
  · exact absurd rfl (h '-' rfl).2
  · rfl

theorem ne_sign_of_isDigit {c : Char} (h : Text.isDigit c = true) : c ≠ '+' ∧ c ≠ '-' := by
  constructor <;> rintro rfl <;> exact absurd h (by decide)

/-- Digits by themselves are digits without a sign. -/
theorem splitSign_trimChars_digits {ds : List Char} (hds : ∀ d ∈ ds, Text.isDigit d = true) :
    splitSign (Text.trimChars ds) = (false, ds) := by
  rw [Text.trimChars_of_forall fun d hd => Text.not_isBlank_of_isDecimal (hds d hd)]
  exact splitSign_eq_self fun d hd => ne_sign_of_isDigit (hds d (List.mem_of_mem_head? hd))

theorem isDigits_of_forall {ds : List Char} (hds : ∀ d ∈ ds, Text.isDigit d = true)
    (hne : ds ≠ []) : isDigits ds = true := by
  simpa [isDigits, hne] using hds

/-- Digits by themselves are too long to be read if there are too many. -/
theorem writesTooLong_ofList {ds : List Char} (hds : ∀ d ∈ ds, Text.isDigit d = true)
    (hlength : maxDigits < ds.length) : WritesTooLong (String.ofList ds) := by
  have hne : ds ≠ [] := List.ne_nil_of_length_pos (Nat.zero_lt_of_lt hlength)
  unfold WritesTooLong
  rw [String.toList_ofList, splitSign_trimChars_digits hds]
  exact ⟨isDigits_of_forall hds hne, hlength⟩

/-- Digits by themselves are read as an integer if there are not too many. -/
theorem readNumberChars_digits {ds : List Char} (hds : ∀ d ∈ ds, Text.isDigit d = true)
    (hne : ds ≠ []) (hlength : ds.length ≤ maxDigits) :
    readNumberChars ds = .ok (some (.int (Text.digitsValue ds))) := by
  have hsign := splitSign_trimChars_digits hds
  have hdigits := isDigits_of_forall hds hne
  have hrest : isDigits (splitSign (Text.trimChars ds)).2 = true := by rwa [hsign]
  obtain ⟨hempty, hline⟩ := not_contains_of_isDigits hrest
  unfold readNumberChars
  simp only [hempty, hline, Bool.or_self, Bool.false_eq_true, if_false, hsign, hdigits, if_true,
    readInteger, if_pos hlength]
  rfl

/-! ## Binary numbers -/

namespace Binary64

/-- A quotient that rounds to a finite number is not too large. -/
theorem log2_le_of_isFinite_ofRatio {negative : Bool} {num den : Nat}
    (h : (ofRatio negative num den).isFinite = true) : (num * unitsPerOne / den).log2 ≤ 2097 := by
  have hpack : ∀ {mantissa exponent : Nat}, (pack negative mantissa exponent).isFinite = true →
      exponent ≤ 2045 := by
    intro mantissa exponent hfinite
    unfold pack at hfinite
    split at hfinite
    · rename_i hcanonical
      exact hcanonical.2.2
    · cases hfinite
  unfold ofRatio at h
  dsimp only at h
  split at h
  · have := hpack h
    omega
  · have := hpack h
    omega

end Binary64

/-- A number of milliseconds that is a finite number of seconds is not too long to be written: at
`10 ^ 4300` the seconds have far more bits than a binary number can count. -/
theorem not_tooLong_of_isFinite {negative : Bool} {n : Int}
    (h : (Binary64.ofRatio negative n.natAbs 1000).isFinite = true) : ¬ TooLong n := by
  intro hlong
  have hlog := Binary64.log2_le_of_isFinite_ofRatio h
  have hbits : ∀ k, 2 ^ k * 1000 ≤ n.natAbs → k ≤ 2097 := by
    intro k hk
    have hle : 2 ^ k ≤ n.natAbs * Binary64.unitsPerOne / 1000 := by
      rw [Nat.le_div_iff_mul_le (by decide)]
      exact Nat.le_trans hk (Nat.le_mul_of_pos_right _ Binary64.unitsPerOne_pos)
    have hne := Nat.ne_of_gt (Nat.lt_of_lt_of_le (Nat.two_pow_pos k) hle)
    exact Nat.le_trans ((Nat.le_log2 hne).mpr hle) hlog
  -- for any number of digits, so that nothing computes the power
  have hpow : ∀ d, 5 ≤ d → 2 ^ d * 1000 ≤ 10 ^ d := by
    intro d hd
    have hfive : 1000 ≤ 5 ^ d :=
      Nat.le_trans (by decide : 1000 ≤ 5 ^ 5) (Nat.pow_le_pow_right (by decide) hd)
    calc 2 ^ d * 1000 ≤ 2 ^ d * 5 ^ d := Nat.mul_le_mul_left _ hfive
      _ = 10 ^ d := (Nat.mul_pow 2 5 d).symm
  have hdigits := hbits maxDigits (Nat.le_trans (hpow maxDigits (by decide)) hlong)
  exact absurd hdigits (by decide)

/-! ## Counts of digits -/

theorem splitNumber_digits (n : Nat) : splitNumber (Text.digits n) =
    if 2 ^ 63 ≤ n then .error .tooManyDigits else .ok (some n, []) := by
  have htake : (Text.digits n).takeWhile Text.isDigit = Text.digits n :=
    List.takeWhile_eq_self_iff.mpr fun c hc =>
      Text.isDigit_of_isDigit (Text.isDigit_of_mem_digits hc)
  have hne : (Text.digits n).isEmpty = false := by
    simp [Text.digits]
  unfold splitNumber
  dsimp only
  rw [htake, hne, Text.digitsValue_digits, List.drop_length]
  rfl

/-- A count of digits is of use if it is below `2 ^ 31`. -/
theorem Layout.read_digits (n : Nat) : Layout.read (Text.digits n) =
    if 2 ^ 63 ≤ n then .error .tooManyDigits
    else if 2 ^ 31 ≤ n then .error .largeCount
    else .ok (.digits (max 1 n)) := by
  have hside : (Text.digits n).head?.bind Side.ofMark? = none := by
    cases hcs : Text.digits n with
    | nil => rfl
    | cons c cs =>
      have hc : c.isDigit = true :=
        Text.isDigit_of_mem_digits (by rw [hcs]; exact List.mem_cons_self)
      show Side.ofMark? c = none
      unfold Side.ofMark?
      split <;> first | rfl | cases hc
  unfold Layout.read readCount
  rw [hside, splitNumber_digits]
  by_cases hlarge : 2 ^ 63 ≤ n
  · rw [if_pos hlarge, if_pos hlarge]
    rfl
  · rw [if_neg hlarge, if_neg hlarge]
    simp only [Outcome.ok_bind, List.isEmpty_nil, Bool.not_true, Bool.false_eq_true, if_false]
    split <;> rfl

end Intake.Numeric
