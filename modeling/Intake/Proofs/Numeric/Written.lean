import Intake.Numeric.Number
import Intake.Proofs.Text.Digits

/-!
# Written numbers are words

The text of a number is a single word: there is something in it, and nothing of it is blank.  So
trimming leaves it alone, and it is not the empty text.

## Main statements

* `Number.not_isBlank_of_write`, `Number.ne_empty_of_write` — the two parts of the statement.
-/

namespace Intake.Numeric

open Text (isBlank digits not_isBlank_of_isDigit isDigit_of_mem_digits)

/-! ## Integers -/

theorem not_isBlank_of_mem_digits {n : Nat} {c : Char} (h : c ∈ digits n) : isBlank c = false :=
  not_isBlank_of_isDigit (isDigit_of_mem_digits h)

theorem not_isBlank_of_mem_intChars {n : Int} {c : Char} (h : c ∈ Text.intChars n) :
    isBlank c = false := by
  rw [Text.intChars, List.mem_append] at h
  rcases h with h | h
  · have hminus : isBlank '-' = false := by decide
    unfold Text.signChars at h
    split at h <;> simp_all
  · exact not_isBlank_of_mem_digits h

theorem toList_writeInt (n : Int) : (Text.writeInt n).toList = Text.intChars n := by
  simp [Text.writeInt]

theorem toList_writeInt_natCast (n : Nat) : (Text.writeInt n).toList = Text.digits n := by
  simp [toList_writeInt, Text.intChars, Text.signChars]

theorem intChars_ne_nil (n : Int) : Text.intChars n ≠ [] := by
  simp [Text.intChars, digits]

/-! ## Binary numbers -/

/-- A character of the notations of a decimal, with its sign. -/
def IsNotation (c : Char) : Prop :=
  c.isDigit = true ∨ c ∈ ['-', '+', '.', 'e']

theorem IsNotation.not_isBlank {c : Char} (h : IsNotation c) : isBlank c = false := by
  rcases h with h | h
  · exact not_isBlank_of_isDigit h
  · have : ['-', '+', '.', 'e'].all (fun c => !isBlank c) = true := by decide
    simpa using List.all_eq_true.mp this c h

theorem isNotation_of_mem_positionalChars {n : Nat} {point : Int} {c : Char}
    (h : c ∈ positionalChars (digits n) point) : IsNotation c := by
  have hdigit : c ∈ digits n → c.isDigit = true := isDigit_of_mem_digits
  have htake : ∀ k, c ∈ (digits n).take k → c.isDigit = true :=
    fun k hc => hdigit (List.mem_of_mem_take hc)
  have hdrop : ∀ k, c ∈ (digits n).drop k → c.isDigit = true :=
    fun k hc => hdigit (List.mem_of_mem_drop hc)
  have hzero : c = '0' → c.isDigit = true := fun hc => hc ▸ rfl
  unfold positionalChars at h
  simp only [IsNotation, List.mem_cons]
  dsimp only at h
  split at h
  · simp only [List.mem_append, List.mem_cons, List.mem_replicate] at h
    grind
  · split at h
    · simp only [List.mem_append, List.mem_cons, List.mem_replicate, List.not_mem_nil] at h
      grind
    · simp only [List.mem_append, List.mem_cons] at h
      grind

theorem isNotation_of_mem_exponentChars {n : Nat} {exponent : Int} {c : Char}
    (h : c ∈ exponentChars (digits n) exponent) : IsNotation c := by
  have hpadded : ∀ k : Nat, c ∈ Text.paddedChars 2 k → c.isDigit = true :=
    fun k hc => Text.isDigit_of_mem_paddedChars hc
  have hdigit : c ∈ digits n → c.isDigit = true := isDigit_of_mem_digits
  unfold exponentChars at h
  simp only [IsNotation, List.mem_cons]
  dsimp only at h
  rw [List.mem_append] at h
  rcases h with h | h
  · split at h
    · rename_i first second rest heq
      rw [heq] at hdigit
      simp only [List.mem_cons] at h hdigit
      grind
    · exact .inl (hdigit h)
  · simp only [List.mem_cons] at h
    split at h <;> grind

theorem isNotation_of_mem_magnitudeChars {d : Decimal} {c : Char} (h : c ∈ d.magnitudeChars) :
    IsNotation c := by
  unfold Decimal.magnitudeChars at h
  split at h
  · have hzero : c = '0' → c.isDigit = true := fun hc => hc ▸ rfl
    simp only [IsNotation, List.mem_cons, List.not_mem_nil, or_false] at h ⊢
    grind
  · dsimp only at h
    split at h
    · exact isNotation_of_mem_positionalChars h
    · exact isNotation_of_mem_exponentChars h

theorem magnitudeChars_ne_nil (d : Decimal) : d.magnitudeChars ≠ [] := by
  unfold Decimal.magnitudeChars
  split
  · simp
  · dsimp only
    split
    · unfold positionalChars
      dsimp only
      split
      · simp
      · split <;> simp
    · simp [exponentChars]

namespace Binary64

theorem isNotation_of_mem_chars {negative : Bool} {mantissa exponent : Nat}
    {canonical : Canonical mantissa exponent} {c : Char}
    (h : c ∈ (finite negative mantissa exponent canonical).chars) : IsNotation c := by
  simp only [chars, List.mem_append] at h
  rcases h with h | h
  · right
    cases negative <;> simp_all
  · exact isNotation_of_mem_magnitudeChars h

theorem not_isBlank_of_mem_chars {x : Binary64} {c : Char} (h : c ∈ x.chars) :
    isBlank c = false := by
  rcases x with payload | negative | ⟨negative, mantissa, exponent, canonical⟩
  · have : ['n', 'a', 'n'].all (fun c => !isBlank c) = true := by decide
    simpa using List.all_eq_true.mp this c h
  · have : ['-', 'i', 'n', 'f'].all (fun c => !isBlank c) = true := by decide
    have hc : c ∈ ['-', 'i', 'n', 'f'] := by
      cases negative <;> simp_all [chars]
    simpa using List.all_eq_true.mp this c hc
  · exact (isNotation_of_mem_chars h).not_isBlank

theorem chars_ne_nil (x : Binary64) : x.chars ≠ [] := by
  rcases x with payload | negative | ⟨negative, mantissa, exponent, canonical⟩
  · simp [chars]
  · simp [chars]
  · simp [chars, magnitudeChars_ne_nil]

end Binary64

/-! ## Numbers -/

namespace Number

/-- The ways in which the text of a number comes about. -/
theorem write_cases {n : Number} {s : String} (h : n.write = .ok s) :
    (∃ i, s = Text.writeInt i) ∨ s ∈ ["-Infinity", "Infinity"] ∨ ∃ x : Binary64, s = x.write := by
  rcases n with i | x
  · simp only [write, writeInteger] at h
    split at h
    · exact .inl ⟨i, by injection h with h; exact h.symm⟩
    · cases h
  · rcases x with payload | negative | ⟨negative, mantissa, exponent, canonical⟩
    all_goals simp only [write] at h
    · split at h
      · split at h
        · exact .inl ⟨_, by injection h with h; exact h.symm⟩
        · exact .inr (.inr ⟨_, by injection h with h; exact h.symm⟩)
      · exact .inr (.inr ⟨_, by injection h with h; exact h.symm⟩)
    · refine .inr (.inl ?_)
      injection h with h
      cases negative <;> simp_all
    · split at h
      · split at h
        · exact .inl ⟨_, by injection h with h; exact h.symm⟩
        · exact .inr (.inr ⟨_, by injection h with h; exact h.symm⟩)
      · exact .inr (.inr ⟨_, by injection h with h; exact h.symm⟩)

theorem not_isBlank_of_write {n : Number} {s : String} (h : n.write = .ok s) {c : Char}
    (hc : c ∈ s.toList) : isBlank c = false := by
  rcases write_cases h with ⟨i, rfl⟩ | hs | ⟨x, rfl⟩
  · rw [toList_writeInt] at hc
    exact not_isBlank_of_mem_intChars hc
  · have : ["-Infinity", "Infinity"].all (fun s => s.toList.all fun c => !isBlank c) = true := by
      decide
    simpa using List.all_eq_true.mp (List.all_eq_true.mp this s hs) c hc
  · rw [Binary64.write, String.toList_ofList] at hc
    exact Binary64.not_isBlank_of_mem_chars hc

theorem ne_empty_of_write {n : Number} {s : String} (h : n.write = .ok s) : s ≠ "" := by
  rcases write_cases h with ⟨i, rfl⟩ | hs | ⟨x, rfl⟩
  · simp [Text.writeInt, intChars_ne_nil]
  · rintro rfl
    simp at hs
  · simp [Binary64.write, Binary64.chars_ne_nil]

theorem ne_empty_of_writeJson {n : Number} {s : String} (h : n.writeJson = .ok s) : s ≠ "" := by
  rcases n with i | payload | negative | ⟨negative, mantissa, exponent, canonical⟩
  · exact ne_empty_of_write (n := .int i) h
  · cases h
    decide
  · cases h
    cases negative <;> decide
  · cases h
    simp [Binary64.write, Binary64.chars_ne_nil]

theorem not_isBlank_of_writeJson {n : Number} {s : String} (h : n.writeJson = .ok s) {c : Char}
    (hc : c ∈ s.toList) : Text.isBlank c = false := by
  rcases n with i | payload | negative | ⟨negative, mantissa, exponent, canonical⟩
  · exact not_isBlank_of_write (n := .int i) h hc
  · obtain rfl := Except.ok.inj h
    have : "NaN".toList.all (fun c => !Text.isBlank c) = true := by decide
    simpa using List.all_eq_true.mp this c hc
  · exact not_isBlank_of_write (n := .float (.infinite negative)) h hc
  · obtain rfl := Except.ok.inj h
    rw [Binary64.write, String.toList_ofList] at hc
    exact Binary64.not_isBlank_of_mem_chars hc

end Number

end Intake.Numeric
