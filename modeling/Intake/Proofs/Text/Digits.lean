import Intake.Numeric.Rounding
import Intake.Text.Digits
import Intake.Text.DecimalDigit
import Intake.Text.Blank

/-!
# Written digits read back

The digits of a natural number, filled up with zeros or not, are decimal digits whose value is the
number again.

## Main statements

* `digitsValue_digits`, `digitsValue_paddedChars` — the value of written digits.
* `digitsValue_lt` — the bound on the value of a run of digits.
* `length_paddedChars` — a number that fits into its width fills exactly that.
* `not_isBlank_of_isDecimal`, `not_isDigit_of_isBlank` — no digit is white space.
-/

namespace Intake.Text

/-! ## Single digits -/

theorem isDigit_toNat {c : Char} (h : c.isDigit = true) : 48 ≤ c.toNat ∧ c.toNat ≤ 57 := by
  simp only [Char.isDigit, Bool.and_eq_true, decide_eq_true_eq, ge_iff_le,
    UInt32.le_iff_toNat_le] at h
  exact h

/-- The decimal digits of ASCII are those of the first zero. -/
theorem digitValue?_of_isDigit {c : Char} (h : c.isDigit = true) :
    digitValue? c = some (c.toNat - 48) := by
  obtain ⟨h₁, h₂⟩ := isDigit_toNat h
  have h₂ : c.toNat < 58 := by omega
  simp [digitValue?, zeros, h₁, h₂]

theorem isDigit_of_isDigit {c : Char} (h : c.isDigit = true) : isDigit c = true := by
  simp [isDigit, digitValue?_of_isDigit h]

theorem not_isBlank_of_isDigit {c : Char} (h : c.isDigit = true) : isBlank c = false := by
  have := isDigit_toNat h
  simp [isBlank, CodeRanges.contains, CodeRanges.holds, blankRanges]
  omega

/-- The ranges of white space lie between the runs of digits. -/
theorem blankRanges_apart :
    ∀ z ∈ zeros, ∀ range ∈ blankRanges, z + 10 ≤ range.1 ∨ range.2 < z := by
  decide

theorem not_isDigit_of_isBlank {c : Char} (h : isBlank c = true) : isDigit c = false := by
  obtain ⟨range, hrange, hc⟩ := List.any_eq_true.mp h
  simp only [Bool.and_eq_true, decide_eq_true_eq] at hc
  have hnone : zeros.find? (fun z => z ≤ c.toNat && c.toNat < z + 10) = none := by
    rw [List.find?_eq_none]
    intro z hz
    have := blankRanges_apart z hz range hrange
    simp only [Bool.and_eq_true, decide_eq_true_eq]
    omega
  simp [isDigit, digitValue?, hnone]

theorem not_isBlank_of_isDecimal {c : Char} (h : isDigit c = true) : isBlank c = false := by
  refine Bool.eq_false_iff.mpr fun hblank => ?_
  rw [not_isDigit_of_isBlank hblank] at h
  cases h

/-! ## Runs of digits -/

/-- Where all characters are digits of ASCII, their value is what the base library makes of
them. -/
theorem digitsValue_eq {cs : List Char} (h : ∀ c ∈ cs, c.isDigit = true) :
    digitsValue cs = Nat.ofDigitChars 10 cs 0 := by
  suffices ∀ n, cs.foldl (fun n c => 10 * n + (digitValue? c).getD 0) n
      = Nat.ofDigitChars 10 cs n from this 0
  induction cs with
  | nil => intro n; rfl
  | cons c cs ih =>
    intro n
    rw [List.foldl_cons, Nat.ofDigitChars_cons, digitValue?_of_isDigit (h c List.mem_cons_self)]
    exact ih (fun d hd => h d (List.mem_cons_of_mem _ hd)) _

theorem digitValue?_lt {c : Char} {n : Nat} (h : digitValue? c = some n) : n < 10 := by
  obtain ⟨z, hz, rfl⟩ := Option.map_eq_some_iff.mp h
  have := List.find?_some hz
  simp only [Bool.and_eq_true, decide_eq_true_eq] at this
  omega

/-- A run of digits stays below the power of ten for its length. -/
theorem digitsValue_lt (cs : List Char) : digitsValue cs < 10 ^ cs.length := by
  suffices ∀ n, cs.foldl (fun n c => 10 * n + (digitValue? c).getD 0) n
      < (n + 1) * 10 ^ cs.length by simpa [digitsValue] using this 0
  induction cs with
  | nil => simp
  | cons c cs ih =>
    intro n
    have hc : (digitValue? c).getD 0 < 10 := by
      cases h : digitValue? c with
      | none => decide
      | some d => exact digitValue?_lt h
    calc _ < (10 * n + (digitValue? c).getD 0 + 1) * 10 ^ cs.length := ih _
      _ ≤ (10 * (n + 1)) * 10 ^ cs.length := Nat.mul_le_mul_right _ (by omega)
      _ = (n + 1) * 10 ^ (c :: cs).length := by
        rw [List.length_cons, Nat.pow_succ', Nat.mul_comm 10 (n + 1), Nat.mul_assoc]

/-- Digits behind others move these up by so many places. -/
theorem digitsValue_append (cs ds : List Char) :
    digitsValue (cs ++ ds) = digitsValue cs * 10 ^ ds.length + digitsValue ds := by
  suffices ∀ n, ds.foldl (fun n c => 10 * n + (digitValue? c).getD 0) n =
      n * 10 ^ ds.length + digitsValue ds by
    rw [digitsValue, List.foldl_append]
    exact this _
  induction ds with
  | nil => simp [digitsValue]
  | cons d ds ih =>
    intro n
    have hcons : digitsValue (d :: ds) =
        (10 * 0 + (digitValue? d).getD 0) * 10 ^ ds.length + digitsValue ds := ih _
    rw [List.foldl_cons, ih, hcons, List.length_cons, Nat.pow_succ', Nat.add_mul, Nat.add_mul,
      ← Nat.mul_assoc, Nat.mul_comm n 10]
    omega

theorem digitsValue_replicate_zero (k : Nat) : digitsValue (List.replicate k '0') = 0 := by
  rw [digitsValue_eq fun c hc => by rw [List.eq_of_mem_replicate hc]; rfl]
  exact Nat.ofDigitChars_replicate_zero

theorem isDigit_of_mem_digits {n : Nat} {c : Char} (h : c ∈ digits n) : c.isDigit = true :=
  Nat.isDigit_of_mem_toDigits (by decide) (by decide) h

theorem digits_ne_nil (n : Nat) : digits n ≠ [] :=
  List.ne_nil_of_length_pos Nat.length_toDigits_pos

theorem digitsValue_digits (n : Nat) : digitsValue (digits n) = n := by
  rw [digitsValue_eq fun _ => isDigit_of_mem_digits]
  exact Nat.ofDigitChars_ten_toDigits

/-! ## Numbers filled up with zeros -/

theorem paddedChars_ofNat (width n : Nat) :
    paddedChars width n = List.replicate (width - (digits n).length) '0' ++ digits n := by
  have hsign : signChars (n : Int) = [] := by simp [signChars]
  simp [paddedChars, intChars, hsign]

theorem isDigit_of_mem_paddedChars {width n : Nat} {c : Char} (h : c ∈ paddedChars width n) :
    c.isDigit = true := by
  rw [paddedChars_ofNat, List.mem_append] at h
  rcases h with h | h
  · obtain rfl := List.eq_of_mem_replicate h
    rfl
  · exact isDigit_of_mem_digits h

theorem digitsValue_paddedChars (width n : Nat) : digitsValue (paddedChars width n) = n := by
  rw [digitsValue_eq fun _ => isDigit_of_mem_paddedChars, paddedChars_ofNat,
    Nat.ofDigitChars_append, Nat.ofDigitChars_replicate_zero]
  exact Nat.ofDigitChars_ten_toDigits

/-- A number below the power of ten for a width has that width. -/
theorem length_paddedChars {width n : Nat} (hwidth : 0 < width) (hn : n < 10 ^ width) :
    (paddedChars width n).length = width := by
  have : (digits n).length ≤ width := (Nat.length_toDigits_le_iff (by decide) hwidth).mpr hn
  rw [paddedChars_ofNat, List.length_append, List.length_replicate]
  omega

theorem toList_padded (width : Nat) (n : Int) : (padded width n).toList = paddedChars width n := by
  simp [padded]

end Intake.Text
