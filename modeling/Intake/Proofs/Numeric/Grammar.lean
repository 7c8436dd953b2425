import Intake.Proofs.Numeric.Limit
import Intake.Proofs.Numeric.ReadBack
import Mathlib.Data.Bool.AllAny

/-!
# The grammar of plain numbers

A plain number is a sign or none, and after it a whole number, a decimal or a word for infinity.
The forms here carry the texts of their parts, so a text writes a number if it is the text of a
form.

## Main definitions

* `SignForm`, `ExponentForm`, `DecimalForm`, `BodyForm` — the parts of a written number.
* `NumberForm` — written numbers, with their texts and the numbers that they write.

## Main statements

* `NumberForm.readNumberChars_chars`, `exists_form_of_readNumberChars` — numbers are read as they
  are written.
* `NumberForm.apart` — what does not stand in a written number.
-/

namespace Intake.Numeric

open Text (isDigit isBlank digitsValue)

/-! ## Signs -/

/-- A sign, or none. -/
inductive SignForm where
  | absent
  | plus
  | minus

namespace SignForm

/-- The text of a sign. -/
def chars : SignForm → List Char
  | absent => []
  | plus => ['+']
  | minus => ['-']

/-- Whether a sign is a minus. -/
def negative : SignForm → Bool
  | minus => true
  | _ => false

end SignForm

theorem splitSign_chars (sign : SignForm) {rest : List Char}
    (h : ∀ c ∈ rest.head?, c ≠ '+' ∧ c ≠ '-') :
    splitSign (sign.chars ++ rest) = (sign.negative, rest) := by
  cases sign with
  | absent => exact splitSign_eq_self h
  | plus => rfl
  | minus => rfl

theorem exists_sign_of_splitSign (cs : List Char) :
    ∃ sign : SignForm, cs = sign.chars ++ (splitSign cs).2 ∧ (splitSign cs).1 = sign.negative := by
  unfold splitSign
  split
  · exact ⟨.plus, rfl, rfl⟩
  · exact ⟨.minus, rfl, rfl⟩
  · exact ⟨.absent, rfl, rfl⟩

/-! ## Exponents -/

theorem isDigits_iff {ds : List Char} :
    isDigits ds = true ↔ ds ≠ [] ∧ ∀ c ∈ ds, isDigit c = true := by
  simp [isDigits]

/-- The exponent of a decimal: a mark, a sign and digits. -/
structure ExponentForm where
  mark : Char
  sign : SignForm
  digits : List Char
  isMark : mark = 'e' ∨ mark = 'E'
  isDigits : isDigits digits = true

namespace ExponentForm

/-- The text of an exponent. -/
def chars (exponent : ExponentForm) : List Char :=
  exponent.mark :: (exponent.sign.chars ++ exponent.digits)

/-- The power of ten that an exponent says. -/
def value (exponent : ExponentForm) : Int :=
  Binary64.withSign exponent.sign.negative (digitsValue exponent.digits)

theorem head?_digits (exponent : ExponentForm) :
    ∀ c ∈ exponent.digits.head?, c ≠ '+' ∧ c ≠ '-' := fun c hc =>
  ne_sign_of_isDigit ((isDigits_iff.mp exponent.isDigits).2 c (List.mem_of_mem_head? hc))

end ExponentForm

/-- The text of an exponent, if there is one. -/
def exponentFormChars (exponent : Option ExponentForm) : List Char :=
  exponent.elim [] ExponentForm.chars

/-- An exponent is read as it is written. -/
theorem readExponent?_formChars (exponent : Option ExponentForm) :
    readExponent? (exponentFormChars exponent) = some (exponent.elim 0 ExponentForm.value) := by
  rcases exponent with - | exponent
  · rfl
  · have hsign := splitSign_chars exponent.sign exponent.head?_digits
    have hdigits := exponent.isDigits
    rcases exponent.isMark with hmark | hmark <;>
      simp [exponentFormChars, ExponentForm.chars, ExponentForm.value, readExponent?, hmark, hsign,
        hdigits]

theorem exists_form_of_readExponent? {cs : List Char} {value : Int}
    (h : readExponent? cs = some value) :
    ∃ exponent : Option ExponentForm, cs = exponentFormChars exponent := by
  rcases cs with - | ⟨c, cs⟩
  · exact ⟨none, rfl⟩
  · obtain ⟨sign, hcs, -⟩ := exists_sign_of_splitSign cs
    rw [readExponent?] at h
    generalize splitSign cs = split at h hcs
    obtain ⟨negative, digits⟩ := split
    dsimp only at h hcs
    split at h
    · rename_i hmark
      split at h
      · rename_i hdigits
        refine ⟨some ⟨c, sign, digits, by simpa using hmark, hdigits⟩, ?_⟩
        rw [hcs]
        rfl
      · cases h
    · cases h

/-! ## Decimals -/

/-- An unsigned decimal: digits with a point among or beside them, or an exponent after them, or
both. -/
structure DecimalForm where
  whole : List Char
  places : Option (List Char)
  exponent : Option ExponentForm
  isDigit : ∀ c ∈ whole ++ places.getD [], isDigit c = true
  ne_nil : whole ++ places.getD [] ≠ []
  marked : places ≠ none ∨ exponent ≠ none

namespace DecimalForm

/-- The text of a decimal behind its whole part. -/
def tail (form : DecimalForm) : List Char :=
  form.places.elim [] ('.' :: ·) ++ exponentFormChars form.exponent

/-- The text of a decimal. -/
def chars (form : DecimalForm) : List Char :=
  form.whole ++ form.tail

/-- What a decimal says, with a sign. -/
def decimal (form : DecimalForm) (negative : Bool) : Decimal :=
  ⟨negative, digitsValue (form.whole ++ form.places.getD []),
    form.exponent.elim 0 ExponentForm.value - (form.places.getD []).length⟩

/-- Behind the whole part of a decimal there is a point or the mark of an exponent. -/
theorem exists_tail_eq (form : DecimalForm) :
    ∃ mark rest, form.tail = mark :: rest ∧ (mark = '.' ∨ mark = 'e' ∨ mark = 'E') := by
  rcases form with ⟨whole, - | places, - | exponent, hdigit, hne, hmarked⟩
  · simp at hmarked
  · exact ⟨exponent.mark, _, rfl, .inr exponent.isMark⟩
  · exact ⟨'.', _, rfl, .inl rfl⟩
  · exact ⟨'.', _, rfl, .inl rfl⟩

theorem isDigits_chars (form : DecimalForm) : isDigits form.chars = false := by
  obtain ⟨mark, rest, htail, hmark⟩ := form.exists_tail_eq
  have hdigit : Text.isDigit mark = false := by rcases hmark with rfl | rfl | rfl <;> decide
  refine Bool.eq_false_iff.mpr fun h => ?_
  have := (isDigits_iff.mp h).2 mark (by simp [chars, htail])
  rw [hdigit] at this
  cases this

theorem exists_isDigit (form : DecimalForm) : ∃ c ∈ form.chars, Text.isDigit c = true := by
  obtain ⟨c, hc⟩ := List.exists_mem_of_ne_nil _ form.ne_nil
  refine ⟨c, ?_, form.isDigit c hc⟩
  rcases List.mem_append.mp hc with hc | hc
  · exact List.mem_append_left _ hc
  · cases hplaces : form.places with
    | none => simp [hplaces] at hc
    | some places =>
      rw [hplaces, Option.getD_some] at hc
      simp [chars, tail, hplaces, hc]

end DecimalForm

/-- A decimal is read as it is written. -/
theorem readDecimal?_formChars (form : DecimalForm) (negative : Bool) :
    readDecimal? negative form.chars = some (form.decimal negative) := by
  rcases form with ⟨whole, places, exponent, hdigit, hne, hmarked⟩
  have hexponent := readExponent?_formChars exponent
  have hhead : ∀ c ∈ (exponentFormChars exponent).head?, isDigit c = false ∧ c ≠ '.' := by
    rcases exponent with - | exponent
    · simp [exponentFormChars]
    · rintro c ⟨⟩
      rcases exponent.isMark with hmark | hmark <;> rw [hmark] <;> decide
  rcases places with - | places
  · rw [Option.getD_none, List.append_nil] at hdigit hne
    refine (readDecimal?_plain hdigit hne hhead hexponent).trans ?_
    simp [DecimalForm.decimal]
  · rw [Option.getD_some] at hdigit hne
    obtain ⟨hwhole, hplaces⟩ := List.forall_mem_append.mp hdigit
    exact readDecimal?_point hwhole hne hplaces (fun c hc => (hhead c hc).1) hexponent

theorem exists_form_of_readDecimal? {negative : Bool} {cs : List Char} {d : Decimal}
    (h : readDecimal? negative cs = some d) (hcs : isDigits cs = false) :
    ∃ form : DecimalForm, cs = form.chars := by
  have hsplit := List.takeWhile_append_dropWhile (p := isDigit) (l := cs)
  have hwhole : ∀ c ∈ cs.takeWhile isDigit, isDigit c = true := fun c => List.mem_takeWhile_imp
  rw [readDecimal?] at h
  dsimp only at h
  generalize cs.takeWhile isDigit = whole at h hsplit hwhole
  generalize cs.dropWhile isDigit = rest at h hsplit
  split at h
  · -- The point has digits on one side of it at least.
    rename_i tail
    dsimp only at h
    split at h
    · cases h
    · rename_i hne
      obtain ⟨value, hvalue, -⟩ := Option.map_eq_some_iff.mp h
      obtain ⟨exponent, hexponent⟩ := exists_form_of_readExponent? hvalue
      have hplaces : ∀ c ∈ tail.takeWhile isDigit, isDigit c = true :=
        fun c => List.mem_takeWhile_imp
      refine ⟨⟨whole, some (tail.takeWhile isDigit), exponent,
        List.forall_mem_append.mpr ⟨hwhole, hplaces⟩, by simpa using hne, by simp⟩, ?_⟩
      rw [← hsplit, DecimalForm.chars, DecimalForm.tail, ← hexponent]
      simp
  · -- Without a point there has to be an exponent, or all would be digits.
    dsimp only at h
    split at h
    · cases h
    · rename_i hne
      obtain ⟨value, hvalue, -⟩ := Option.map_eq_some_iff.mp h
      obtain ⟨exponent, hexponent⟩ := exists_form_of_readExponent? hvalue
      have hne : whole ≠ [] := by simpa using hne
      have hmarked : exponent ≠ none := by
        rintro rfl
        rw [hexponent, exponentFormChars, Option.elim_none, List.append_nil] at hsplit
        rw [← hsplit, isDigits_iff.mpr ⟨hne, hwhole⟩] at hcs
        cases hcs
      refine ⟨⟨whole, none, exponent, by simpa using hwhole, by simpa using hne, .inr hmarked⟩, ?_⟩
      rw [← hsplit, hexponent]
      rfl

/-! ## Words -/

/-- What does not stand in a written number: blanks, low lines and commas. -/
def Apart (c : Char) : Prop :=
  isBlank c = false ∧ c ≠ '_' ∧ c ≠ ','

instance (c : Char) : Decidable (Apart c) :=
  inferInstanceAs (Decidable (_ ∧ _))

theorem apart_of_isDigit {c : Char} (h : isDigit c = true) : Apart c := by
  refine ⟨Text.not_isBlank_of_isDecimal h, ?_, ?_⟩ <;> rintro rfl <;> exact absurd h (by decide)

/-- The words that are read. -/
def words : List String := ["inf", "infinity", "nan"]

/-- The letters of those words, and all capital letters. -/
def wordLetters : List Char := "afintyABCDEFGHIJKLMNOPQRSTUVWXYZ".toList

theorem wordLetters_apart : ∀ c ∈ wordLetters,
    Apart c ∧ isDigit c = false ∧ c ≠ '+' ∧ c ≠ '-' :=
  List.all_iff_forall_prop.mp (by decide)

/-- What is a letter of a word in lower case stands among the letters. -/
theorem mem_wordLetters_of_mem_words {word : String} (hword : word ∈ words) {c : Char}
    (h : Text.lowerAscii c ∈ word.toList) : c ∈ wordLetters := by
  rw [Text.lowerAscii] at h
  split at h
  · rename_i hcapital
    obtain ⟨hlow, hhigh⟩ : 'A' ≤ c ∧ c ≤ 'Z' := by simpa using hcapital
    have hlow : 65 ≤ c.toNat := hlow
    have hhigh : c.toNat ≤ 90 := hhigh
    have hall : ∀ n, n < 26 → Char.ofNat (65 + n) ∈ wordLetters := by decide
    have hmem := hall (c.toNat - 65) (by omega)
    rwa [Nat.add_sub_cancel' hlow, Char.ofNat_toNat] at hmem
  · have hall : words.all (fun word => word.toList.all (wordLetters.contains ·)) = true := by decide
    simpa using List.all_eq_true.mp (List.all_eq_true.mp hall word hword) c h

/-- A word for infinity, in either case. -/
def IsInfinity (letters : List Char) : Prop :=
  letters.map Text.lowerAscii = "inf".toList ∨ letters.map Text.lowerAscii = "infinity".toList

namespace IsInfinity

variable {letters : List Char}

theorem mem_wordLetters (h : IsInfinity letters) {c : Char} (hc : c ∈ letters) :
    c ∈ wordLetters := by
  have hmem := List.mem_map_of_mem (f := Text.lowerAscii) hc
  rcases h with h | h <;> rw [h] at hmem
  · have hword : "inf" ∈ words := by decide
    exact mem_wordLetters_of_mem_words hword hmem
  · have hword : "infinity" ∈ words := by decide
    exact mem_wordLetters_of_mem_words hword hmem

theorem ne_nil (h : IsInfinity letters) : letters ≠ [] := by
  rintro rfl
  rcases h with h | h <;> cases h

theorem isDigits (h : IsInfinity letters) : isDigits letters = false := by
  obtain ⟨c, hc⟩ := List.exists_mem_of_ne_nil _ h.ne_nil
  refine Bool.eq_false_iff.mpr fun hdigits => ?_
  have hnone := (wordLetters_apart c (h.mem_wordLetters hc)).2.1
  cases ((isDigits_iff.mp hdigits).2 c hc).symm.trans hnone

theorem readSpecial? (h : IsInfinity letters) (negative : Bool) :
    readSpecial? negative letters = some (.infinite negative) := by
  have hword : (decide (letters.map Text.lowerAscii = "inf".toList) ||
      decide (letters.map Text.lowerAscii = "infinity".toList)) = true := by
    rwa [Bool.or_eq_true, decide_eq_true_eq, decide_eq_true_eq]
  exact if_pos hword

end IsInfinity

theorem readSpecial?_eq_none {negative : Bool} {cs : List Char}
    (h : ∀ word ∈ words, cs.map Text.lowerAscii ≠ word.toList) :
    readSpecial? negative cs = none := by
  simp only [words, List.forall_mem_cons] at h
  obtain ⟨hinf, hinfinity, hnan, -⟩ := h
  rw [readSpecial?]
  simp only [hinf, hinfinity, hnan, decide_false, Bool.or_self, Bool.false_eq_true, if_false]

/-- Where a digit stands, there is no word. -/
theorem readSpecial?_of_mem {negative : Bool} {cs : List Char} {c : Char} (hc : c ∈ cs)
    (hdigit : isDigit c = true) : readSpecial? negative cs = none := by
  refine readSpecial?_eq_none fun word hword heq => ?_
  have hlower : Text.lowerAscii c ∈ word.toList := heq ▸ List.mem_map_of_mem hc
  obtain ⟨-, hnone, -⟩ := wordLetters_apart c (mem_wordLetters_of_mem_words hword hlower)
  cases hdigit.symm.trans hnone

theorem isInfinity_of_readSpecial? {negative : Bool} {cs : List Char} {x : Binary64}
    (h : readSpecial? negative cs = some x) (hx : (Number.float x).isNaN = false) :
    IsInfinity cs := by
  rw [readSpecial?] at h
  split at h
  · rename_i hword
    rwa [Bool.or_eq_true, decide_eq_true_eq, decide_eq_true_eq] at hword
  · split at h
    · cases h
      cases hx
    · cases h

/-! ## Written numbers -/

/-- What stands behind the sign of a number. -/
inductive BodyForm where
  | whole (digits : List Char) (isDigits : isDigits digits = true)
  | decimal (form : DecimalForm)
  | infinity (letters : List Char) (isInfinity : IsInfinity letters)

namespace BodyForm

/-- The text behind a sign. -/
def chars : BodyForm → List Char
  | whole digits _ => digits
  | decimal form => form.chars
  | infinity letters _ => letters

/-- The number that a text writes, with a sign. -/
def number (negative : Bool) : BodyForm → Except DigitLimit Number
  | whole digits _ => readInteger negative digits
  | decimal form => .ok (.float (.ofDecimal (form.decimal negative)))
  | infinity _ _ => .ok (.float (.infinite negative))

end BodyForm

/-- A written number: a sign or none, and what stands behind it. -/
structure NumberForm where
  sign : SignForm
  body : BodyForm

namespace NumberForm

/-- The text of a number. -/
def chars (form : NumberForm) : List Char :=
  form.sign.chars ++ form.body.chars

/-- The number that a text writes. -/
def number (form : NumberForm) : Except DigitLimit Number :=
  form.body.number form.sign.negative

end NumberForm

/-! ### Characters -/

theorem SignForm.apart (sign : SignForm) : ∀ c ∈ sign.chars, Apart c := by
  cases sign with
  | absent => exact List.forall_mem_nil _
  | plus | minus => exact List.forall_mem_singleton.mpr (by decide)

theorem ExponentForm.apart (exponent : ExponentForm) : ∀ c ∈ exponent.chars, Apart c := by
  refine List.forall_mem_cons.mpr ⟨?_, List.forall_mem_append.mpr ⟨exponent.sign.apart, ?_⟩⟩
  · rcases exponent.isMark with hmark | hmark <;> rw [hmark] <;> decide
  · exact fun c hc => apart_of_isDigit ((isDigits_iff.mp exponent.isDigits).2 c hc)

theorem DecimalForm.apart (form : DecimalForm) : ∀ c ∈ form.chars, Apart c := by
  obtain ⟨hwhole, hplaces⟩ := List.forall_mem_append.mp form.isDigit
  have hpoint : Apart '.' := by decide
  refine List.forall_mem_append.mpr ⟨fun c hc => apart_of_isDigit (hwhole c hc),
    List.forall_mem_append.mpr ⟨?_, ?_⟩⟩
  · cases hform : form.places with
    | none => simp
    | some places =>
      rw [hform] at hplaces
      exact List.forall_mem_cons.mpr ⟨hpoint, fun c hc => apart_of_isDigit (hplaces c hc)⟩
  · cases form.exponent with
    | none => simp [exponentFormChars]
    | some exponent => exact exponent.apart

theorem BodyForm.apart (body : BodyForm) : ∀ c ∈ body.chars, Apart c := by
  cases body with
  | whole digits isDigits => exact fun c hc => apart_of_isDigit ((isDigits_iff.mp isDigits).2 c hc)
  | decimal form => exact form.apart
  | infinity letters isInfinity =>
    exact fun c hc => (wordLetters_apart c (isInfinity.mem_wordLetters hc)).1

/-- No blank, no low line and no comma stands in a written number. -/
theorem NumberForm.apart (form : NumberForm) : ∀ c ∈ form.chars, Apart c :=
  List.forall_mem_append.mpr ⟨form.sign.apart, form.body.apart⟩

/-- What stands behind a sign starts with no sign. -/
theorem BodyForm.head?_chars (body : BodyForm) : ∀ c ∈ body.chars.head?, c ≠ '+' ∧ c ≠ '-' := by
  cases body with
  | whole digits isDigits =>
    intro c hc
    exact ne_sign_of_isDigit ((isDigits_iff.mp isDigits).2 c (List.mem_of_mem_head? hc))
  | decimal form =>
    intro c hc
    cases hwhole : form.whole with
    | nil =>
      obtain ⟨mark, rest, htail, hmark⟩ := form.exists_tail_eq
      rw [chars, DecimalForm.chars, hwhole, htail] at hc
      cases hc
      rcases hmark with rfl | rfl | rfl <;> decide
    | cons first rest =>
      rw [chars, DecimalForm.chars, hwhole] at hc
      cases hc
      exact ne_sign_of_isDigit (form.isDigit c (by simp [hwhole]))
  | infinity letters isInfinity =>
    intro c hc
    exact (wordLetters_apart c (isInfinity.mem_wordLetters (List.mem_of_mem_head? hc))).2.2

/-! ### Reading -/

theorem readBinary64?_eq_of_splitSign {cs rest : List Char} {negative : Bool}
    (h : splitSign cs = (negative, rest)) : readBinary64? cs =
      (readSpecial? negative rest <|> (readDecimal? negative rest).map Binary64.ofDecimal) := by
  rw [readBinary64?, h]

theorem NumberForm.splitSign_chars (form : NumberForm) :
    splitSign form.chars = (form.sign.negative, form.body.chars) :=
  Numeric.splitSign_chars form.sign form.body.head?_chars

theorem NumberForm.chars_ne_nil (form : NumberForm) : form.chars ≠ [] := by
  refine List.append_ne_nil_of_right_ne_nil _ ?_
  cases form.body with
  | whole digits isDigits => exact (isDigits_iff.mp isDigits).1
  | decimal form =>
    obtain ⟨mark, rest, htail, -⟩ := form.exists_tail_eq
    simp [BodyForm.chars, DecimalForm.chars, htail]
  | infinity letters isInfinity => exact isInfinity.ne_nil

/-- What is no whole number by itself is read as a binary number. -/
theorem readNumberChars_of_binary {cs rest : List Char} {negative : Bool} {x : Binary64}
    (htrim : Text.trimChars cs = cs) (hne : cs ≠ []) (hline : '_' ∉ cs)
    (hsplit : splitSign cs = (negative, rest)) (hrest : isDigits rest = false)
    (hread : readBinary64? cs = some x) (hx : (Number.float x).isNaN = false) :
    readNumberChars cs = .ok (some (.float x)) := by
  rw [readNumberChars, htrim]
  simp only [List.isEmpty_eq_false_iff.mpr hne, List.contains_eq_mem, hline, decide_false,
    Bool.or_self, Bool.false_eq_true, if_false, hsplit, hrest, hread]
  cases x with
  | nan payload => cases hx
  | _ => rfl

/-- A number is read as it is written. -/
theorem NumberForm.readNumberChars_chars (form : NumberForm) :
    readNumberChars form.chars = some <$> form.number := by
  have htrim : Text.trimChars form.chars = form.chars :=
    Text.trimChars_of_forall fun c hc => (form.apart c hc).1
  have hne := form.chars_ne_nil
  have hline : '_' ∉ form.chars := fun hmem => (form.apart '_' hmem).2.1 rfl
  have hsplit := form.splitSign_chars
  have hbinary := readBinary64?_eq_of_splitSign hsplit
  rw [number]
  cases hbody : form.body with
  | whole digits isDigits =>
    rw [hbody, BodyForm.chars] at hsplit
    rw [readNumberChars, htrim]
    simp only [List.isEmpty_eq_false_iff.mpr hne, List.contains_eq_mem, hline, decide_false,
      Bool.or_self, Bool.false_eq_true, if_false, hsplit, isDigits, if_true]
    rfl
  | decimal decimal =>
    rw [hbody, BodyForm.chars] at hsplit hbinary
    obtain ⟨c, hc, hdigit⟩ := decimal.exists_isDigit
    rw [readSpecial?_of_mem hc hdigit, readDecimal?_formChars, Option.map_some] at hbinary
    exact readNumberChars_of_binary htrim hne hline hsplit decimal.isDigits_chars hbinary
      (Binary64.isNaN_ofDecimal _)
  | infinity letters isInfinity =>
    rw [hbody, BodyForm.chars] at hsplit hbinary
    rw [isInfinity.readSpecial?] at hbinary
    exact readNumberChars_of_binary htrim hne hline hsplit isInfinity.isDigits hbinary rfl

/-- What is read as a number is the text of a number, blanks at its ends aside. -/
theorem exists_form_of_readNumberChars {cs : List Char} {n : Number}
    (h : readNumberChars cs = .ok (some n)) :
    ∃ form : NumberForm, Text.trimChars cs = form.chars ∧ form.number = .ok n := by
  obtain ⟨sign, hcs, hnegative⟩ := exists_sign_of_splitSign (Text.trimChars cs)
  rw [readNumberChars] at h
  dsimp only at h
  split at h
  · cases h
  · obtain ⟨⟨negative, rest⟩, hsplit⟩ : ∃ p, splitSign (Text.trimChars cs) = p := ⟨_, rfl⟩
    have hbinary := readBinary64?_eq_of_splitSign hsplit
    rw [hsplit] at h hcs hnegative
    obtain rfl : negative = sign.negative := hnegative
    dsimp only at h hcs
    split at h
    · rename_i hdigits
      obtain ⟨m, hm, heq⟩ := Outcome.map_eq_ok.mp h
      cases heq
      exact ⟨⟨sign, .whole rest hdigits⟩, hcs, hm⟩
    · rename_i hdigits
      split at h
      · cases h
      · cases h
      · rename_i x hnan hread
        cases h
        have hx : (Number.float x).isNaN = false := by
          cases x with
          | nan payload => exact absurd rfl (hnan payload)
          | _ => rfl
        rw [hread] at hbinary
        cases hword : readSpecial? sign.negative rest with
        | some y =>
          rw [hword] at hbinary
          obtain rfl : x = y := Option.some.inj hbinary
          have hinfinity := isInfinity_of_readSpecial? hword hx
          obtain rfl := Option.some.inj ((hinfinity.readSpecial? _).symm.trans hword)
          exact ⟨⟨sign, .infinity rest hinfinity⟩, hcs, rfl⟩
        | none =>
          rw [hword] at hbinary
          obtain ⟨d, hd, rfl⟩ := Option.map_eq_some_iff.mp hbinary.symm
          obtain ⟨form, rfl⟩ := exists_form_of_readDecimal? hd (Bool.eq_false_iff.mpr hdigits)
          obtain rfl := Option.some.inj ((readDecimal?_formChars form _).symm.trans hd)
          exact ⟨⟨sign, .decimal form⟩, hcs, rfl⟩

end Intake.Numeric
