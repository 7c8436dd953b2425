import Intake.Numeric.Readable
import Intake.Proofs.Numeric.Grammar
import Intake.Proofs.Text.Digits

/-!
# Numbers written for people

White space, hyphens and the mark that groups thousands are skipped, wherever they stand, and what
is left is read as a plain number with a point for the decimal mark.  So grouped digits are read as
the digits alone, and the two conventions for the decimal mark differ by an exchange of the marks.

## Main definitions

* `Separator.skips` — the characters that are skipped.
* `Grouped` — characters with skipped ones between them.
* `Spells` — the digits of a natural number.
* `exchanged` — a text with points and commas exchanged.

## Main statements

* `ungroup_eq` — what is left of a text, for both conventions at once.
* `readReadable_grouped` — grouped digits are read as their number, a unit letter multiplies it.
* `readReadable_exchanged` — the two conventions.
-/

namespace Intake.Numeric

open Text (isDigit isBlank digitsValue)

/-! ## Skipped characters -/

/-- The mark that groups thousands. -/
def Separator.grouping : Separator → Char
  | .point => ','
  | .comma => '.'

/-- The characters that are skipped in a number. -/
def Separator.skips (separator : Separator) (c : Char) : Bool :=
  isBlank c || c = '-' || c = separator.grouping

/-- The decimal mark as a point. -/
def Separator.toPoint (separator : Separator) (c : Char) : Char :=
  if c = separator.char then '.' else c

theorem Separator.toPoint_point : Separator.toPoint .point = id := by
  funext c
  by_cases hc : c = '.' <;> simp [toPoint, char, hc]

/-- What is left of a text are the characters that are not skipped, with a point for the decimal
mark. -/
theorem ungroup_eq (separator : Separator) (cs : List Char) :
    ungroup separator cs = (cs.filter (!separator.skips ·)).map separator.toPoint := by
  have hskips : cs.filter (!separator.skips ·) =
      (cs.filter fun c => !isBlank c && c ≠ '-').filter (· ≠ separator.grouping) := by
    rw [List.filter_filter]
    refine List.filter_congr fun c _ => ?_
    simp only [Separator.skips, Bool.not_or, decide_not]
    rw [Bool.and_comm]
  rw [hskips]
  cases separator with
  | point =>
    rw [Separator.toPoint_point, List.map_id]
    rfl
  | comma => rfl

/-! ## Grouped characters -/

/-- Characters with skipped ones anywhere between them, before them and behind them. -/
inductive Grouped (separator : Separator) : List Char → List Char → Prop
  | nil : Grouped separator [] []
  | keep (c : Char) {kept cs : List Char} (rest : Grouped separator kept cs) :
      Grouped separator (c :: kept) (c :: cs)
  | skip {c : Char} {kept cs : List Char} (skipped : separator.skips c = true)
      (rest : Grouped separator kept cs) : Grouped separator kept (c :: cs)

/-- The characters that stay as they are. -/
def Separator.Keeps (separator : Separator) (c : Char) : Prop :=
  separator.skips c = false ∧ c ≠ separator.char

theorem Grouped.filter_eq {separator : Separator} {kept cs : List Char}
    (h : Grouped separator kept cs) (hkept : ∀ c ∈ kept, separator.Keeps c) :
    cs.filter (!separator.skips ·) = kept := by
  induction h with
  | nil => rfl
  | keep c _ ih =>
    obtain ⟨hc, hkept⟩ := List.forall_mem_cons.mp hkept
    rw [List.filter_cons_of_pos (by simp [hc.1]), ih hkept]
  | skip skipped _ ih => rw [List.filter_cons_of_neg (by simp [skipped]), ih hkept]

/-- The skipped characters between others leave nothing behind. -/
theorem Grouped.ungroup_eq {separator : Separator} {kept cs : List Char}
    (h : Grouped separator kept cs) (hkept : ∀ c ∈ kept, separator.Keeps c) :
    ungroup separator cs = kept := by
  rw [Numeric.ungroup_eq, h.filter_eq hkept]
  refine (List.map_congr_left fun c hc => ?_).trans (List.map_id kept)
  exact if_neg (hkept c hc).2

/-! ## Digits -/

/-- Decimal digits of a natural number, zeros in front or not, no more than are read. -/
structure Spells (ds : List Char) (n : Nat) : Prop where
  isDigit : ∀ c ∈ ds, isDigit c = true
  ne_nil : ds ≠ []
  length_le : ds.length ≤ maxDigits
  value : digitsValue ds = n

theorem spells_zeros_append {zeros n : Nat} (h : zeros + (Text.digits n).length ≤ maxDigits) :
    Spells (List.replicate zeros '0' ++ Text.digits n) n where
  isDigit := by
    intro c hc
    rcases List.mem_append.mp hc with hc | hc
    · rw [List.eq_of_mem_replicate hc]
      decide
    · exact Text.isDigit_of_isDigit (Text.isDigit_of_mem_digits hc)
  ne_nil := by simp [Text.digits_ne_nil]
  length_le := by rwa [List.length_append, List.length_replicate]
  value := by
    rw [Text.digitsValue_append, Text.digitsValue_replicate_zero, Text.digitsValue_digits]
    omega

/-- No digit is skipped, and none is a mark. -/
theorem Separator.keeps_of_isDigit (separator : Separator) {c : Char} (h : isDigit c = true) :
    separator.Keeps c := by
  have hne : ∀ mark, isDigit mark = false → c ≠ mark := by
    rintro mark hmark rfl
    cases h.symm.trans hmark
  have hblank := Text.not_isBlank_of_isDecimal h
  have hhyphen := hne '-' (by decide)
  have hpoint := hne '.' (by decide)
  have hcomma := hne ',' (by decide)
  cases separator <;> simp [Keeps, skips, grouping, char, hblank, hhyphen, hpoint, hcomma]

/-- Digits are read as their number. -/
theorem Spells.readPlain {ds : List Char} {n : Nat} (h : Spells ds n) :
    readPlain ds = .ok (some (.int n)) := by
  rw [Numeric.readPlain, readNumberChars_digits h.isDigit h.ne_nil h.length_le, h.value]
  rfl

/-! ## Units -/

/-- The letters of units and the powers of ten that they stand for. -/
def unitPowers : List (Char × Nat) :=
  [('k', 3), ('K', 3), ('m', 6), ('M', 6), ('b', 9), ('B', 9), ('t', 12), ('T', 12)]

theorem multiplier?_of_mem : ∀ unit ∈ unitPowers, multiplier? unit.1 = some (10 ^ unit.2) := by
  decide

theorem keeps_of_mem_unitPowers (separator : Separator) :
    ∀ unit ∈ unitPowers, separator.Keeps unit.1 := by
  cases separator <;> simp only [Separator.Keeps] <;> decide

/-- A letter of a unit does not end a plain number. -/
theorem unitPowers_apart : ∀ unit ∈ unitPowers,
    Apart unit.1 ∧ isDigit unit.1 = false ∧ unit.1 ≠ '.' ∧ readExponent? [unit.1] = none ∧
      ∀ word ∈ words, word.toList.getLast? ≠ some (Text.lowerAscii unit.1) := by
  decide

section Units

variable {ds : List Char} {n : Nat} {unit : Char × Nat}

/-- Digits before the letter of a unit are no word. -/
theorem readSpecial?_unit {negative : Bool} (hunit : unit ∈ unitPowers) :
    readSpecial? negative (ds ++ [unit.1]) = none := by
  obtain ⟨-, -, -, -, hlast⟩ := unitPowers_apart unit hunit
  refine readSpecial?_eq_none fun word hword heq => hlast word hword ?_
  rw [← heq, List.map_append, List.map_singleton, List.getLast?_concat]

/-- Nor are they a decimal. -/
theorem readDecimal?_unit {negative : Bool} (hds : ∀ c ∈ ds, isDigit c = true)
    (hunit : unit ∈ unitPowers) : readDecimal? negative (ds ++ [unit.1]) = none := by
  obtain ⟨-, hdigit, hpoint, hexponent, -⟩ := unitPowers_apart unit hunit
  have htail : ∀ c ∈ [unit.1].head?, isDigit c = false := by simpa using hdigit
  obtain ⟨htake, hdrop⟩ := takeWhile_append_digits hds htail
  rw [readDecimal?, htake, hdrop]
  dsimp only
  split
  · rename_i heq
    exact absurd (List.cons.inj heq).1 hpoint
  · -- Neither a point nor the mark of an exponent follows the digits.
    dsimp only
    rw [hexponent, Option.map_none, ite_self]

/-- With the letter of a unit digits are no plain number. -/
theorem readPlain_unit (h : Spells ds n) (hunit : unit ∈ unitPowers) :
    readPlain (ds ++ [unit.1]) = .ok none := by
  obtain ⟨hapart, hdigit, -⟩ := unitPowers_apart unit hunit
  have hall : ∀ c ∈ ds ++ [unit.1], Apart c :=
    List.forall_mem_append.mpr
      ⟨fun c hc => apart_of_isDigit (h.isDigit c hc), by simpa using hapart⟩
  have htrim : Text.trimChars (ds ++ [unit.1]) = ds ++ [unit.1] :=
    Text.trimChars_of_forall fun c hc => (hall c hc).1
  have hline : '_' ∉ ds ++ [unit.1] := fun hmem => (hall '_' hmem).2.1 rfl
  have hsign : splitSign (ds ++ [unit.1]) = (false, ds ++ [unit.1]) := by
    refine splitSign_eq_self fun c hc => ne_sign_of_isDigit (h.isDigit c ?_)
    rw [List.head?_append_of_ne_nil _ h.ne_nil] at hc
    exact List.mem_of_mem_head? hc
  have hdigits : isDigits (ds ++ [unit.1]) = false := by
    refine Bool.eq_false_iff.mpr fun hdigits => ?_
    cases hdigit.symm.trans ((isDigits_iff.mp hdigits).2 unit.1 (by simp))
  have hbinary : readBinary64? (ds ++ [unit.1]) = none := by
    rw [readBinary64?_eq_of_splitSign hsign, readSpecial?_unit hunit,
      readDecimal?_unit h.isDigit hunit]
    rfl
  have hempty : (ds ++ [unit.1]).isEmpty = false := by simp
  rw [readPlain, readNumberChars, htrim]
  simp only [hempty, List.contains_eq_mem, hline, decide_false, Bool.or_self, Bool.false_eq_true,
    if_false, hsign, hdigits, hbinary]
  rfl

/-- A unit multiplies the number before it. -/
theorem readWithUnit_unit (h : Spells ds n) (hunit : unit ∈ unitPowers) :
    readWithUnit (ds ++ [unit.1]) = .ok (.int (n * 10 ^ unit.2)) := by
  simp only [readWithUnit, readPlain_unit h hunit, h.readPlain, List.getLast?_concat,
    List.dropLast_concat, multiplier?_of_mem unit hunit, Outcome.ok_bind, Number.times]
  push_cast
  rfl

end Units

/-! ## Grouped numbers -/

/-- A text groups the characters of it that are not skipped. -/
theorem grouped_filter (separator : Separator) (cs : List Char) :
    Grouped separator (cs.filter (!separator.skips ·)) cs := by
  induction cs with
  | nil => exact .nil
  | cons c cs ih =>
    cases hskips : separator.skips c with
    | true =>
      rw [List.filter_cons_of_neg (by simp [hskips])]
      exact .skip hskips ih
    | false =>
      rw [List.filter_cons_of_pos (by simp [hskips])]
      exact .keep c ih

/-- Digits are read as their number however they are grouped, and the letter of a unit after them
multiplies it. -/
theorem readReadable_grouped {locale text : String} {ds : List Char} {n : Nat}
    (h : Spells ds n) :
    (Grouped (decimalSeparator locale) ds text.toList →
      readReadable (decimalSeparator locale) text = .ok (.int n)) ∧
    ∀ unit ∈ unitPowers, Grouped (decimalSeparator locale) (ds ++ [unit.1]) text.toList →
      readReadable (decimalSeparator locale) text = .ok (.int (n * 10 ^ unit.2)) := by
  generalize decimalSeparator locale = separator
  have hdigits : ∀ c ∈ ds, separator.Keeps c := fun c hc =>
    separator.keeps_of_isDigit (h.isDigit c hc)
  constructor
  · intro hgrouped
    rw [readReadable, hgrouped.ungroup_eq hdigits, readWithUnit, h.readPlain]
    rfl
  · intro unit hunit hgrouped
    have hkept : ∀ c ∈ ds ++ [unit.1], separator.Keeps c :=
      List.forall_mem_append.mpr ⟨hdigits, by simpa using keeps_of_mem_unitPowers separator _ hunit⟩
    rw [readReadable, hgrouped.ungroup_eq hkept, readWithUnit_unit h hunit]

/-- The digits of twelve thousand and four hundred, with a zero before them. -/
theorem spells_twelveThousand : Spells "012400".toList 12400 := by
  have hlength : 1 + (Text.digits 12400).length ≤ maxDigits := by decide
  exact spells_zeros_append hlength

theorem readReadable_grouped_twelveThousand :
    readReadable (decimalSeparator "de") " 01 2.4-00." = .ok (.int 12400) ∧
    readReadable (decimalSeparator "de") "0.12.400 -K " = .ok (.int (12400 * 10 ^ 3)) := by
  have hseparator : decimalSeparator "de" = .comma := by decide
  refine ⟨(readReadable_grouped spells_twelveThousand).1 ?_,
    (readReadable_grouped spells_twelveThousand).2 ('K', 3) (by decide) ?_⟩
  · exact hseparator ▸ grouped_filter .comma " 01 2.4-00.".toList
  · exact hseparator ▸ grouped_filter .comma "0.12.400 -K ".toList

/-! ## The two conventions -/

/-- The other one of the two marks. -/
def exchangeMark (c : Char) : Char :=
  if c = '.' then ',' else if c = ',' then '.' else c

/-- A text with all points and commas exchanged. -/
def exchanged (text : String) : String :=
  String.ofList (text.toList.map exchangeMark)

/-- With the marks exchanged the other convention leaves the same characters. -/
theorem ungroup_exchangeMark (cs : List Char) :
    ungroup .point (cs.map exchangeMark) = ungroup .comma cs := by
  have hskips : ∀ c, Separator.skips .point (exchangeMark c) = Separator.skips .comma c := by
    intro c
    by_cases hpoint : c = '.'
    · rw [hpoint]
      decide
    · by_cases hcomma : c = ','
      · rw [hcomma]
        decide
      · simp [exchangeMark, Separator.skips, Separator.grouping, hpoint, hcomma]
  have hmarks : ∀ c, Separator.skips .comma c = false →
      Separator.toPoint .point (exchangeMark c) = Separator.toPoint .comma c := by
    intro c hc
    have hpoint : c ≠ '.' := by
      rintro rfl
      exact absurd hc (by decide)
    by_cases hcomma : c = ','
    · rw [hcomma]
      decide
    · simp [exchangeMark, Separator.toPoint, Separator.char, hpoint, hcomma]
  rw [ungroup_eq, ungroup_eq, List.filter_map, List.map_map]
  simp only [Function.comp_def, hskips]
  exact List.map_congr_left fun c hc => hmarks c (by simpa using List.of_mem_filter hc)

/-- A text is read under one convention as the text with exchanged marks under the other. -/
theorem readReadable_exchanged {comma point : String} (hcomma : decimalSeparator comma = .comma)
    (hpoint : decimalSeparator point = .point) (text : String) :
    readReadable (decimalSeparator comma) text =
      readReadable (decimalSeparator point) (exchanged text) := by
  rw [hcomma, hpoint, readReadable, readReadable, exchanged, String.toList_ofList,
    ungroup_exchangeMark]

theorem readReadable_exchanged_de_en :
    readReadable (decimalSeparator "de") "1.234,5k" =
      readReadable (decimalSeparator "en") "1,234.5k" :=
  readReadable_exchanged (by decide) (by decide) "1.234,5k"

end Intake.Numeric
