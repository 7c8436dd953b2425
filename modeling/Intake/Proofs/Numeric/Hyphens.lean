import Intake.Proofs.Numeric.Readable

/-!
# Hyphens in plain numbers

A hyphen stands in a plain number as the sign of the number and as the sign of its exponent, and
nowhere else.  Numbers written for people skip both, so a plain number is read as the number that
is left without them.

## Main definitions

* `withoutHyphens` — a text without its hyphens.
* `NumberForm.unhyphened` — a written number without its hyphens.
* `Number.unsigned` — a number without its sign.

## Main statements

* `NumberForm.filter_chars` — the text of a number without its hyphens is the text of one.
* `exists_readReadable_point` — a plain number is read for people as what is left of it.
* `readNumber_unsigned` — which number is left if only the sign is a hyphen.
-/

namespace Intake.Numeric

open Text (isDigit)

/-- A text without its hyphens. -/
def withoutHyphens (text : String) : String :=
  String.ofList (text.toList.filter (· ≠ '-'))

theorem withoutHyphens_eq_self {text : String} (h : '-' ∉ text.toList) :
    withoutHyphens text = text := by
  have hkept : text.toList.filter (· ≠ '-') = text.toList := by
    refine List.filter_eq_self.mpr fun c hc => decide_eq_true ?_
    rintro rfl
    exact h hc
  rw [withoutHyphens, hkept, String.ofList_toList]

/-! ## Forms without hyphens -/

theorem filter_digits {ds : List Char} (h : ∀ c ∈ ds, isDigit c = true) :
    ds.filter (· ≠ '-') = ds :=
  List.filter_eq_self.mpr fun c hc => by simpa using (ne_sign_of_isDigit (h c hc)).2

/-- A sign, if it is no hyphen. -/
def SignForm.unhyphened : SignForm → SignForm
  | plus => plus
  | _ => absent

theorem SignForm.filter_chars (sign : SignForm) :
    sign.chars.filter (· ≠ '-') = sign.unhyphened.chars := by
  cases sign <;> rfl

/-- An exponent without its minus sign. -/
def ExponentForm.unhyphened (exponent : ExponentForm) : ExponentForm :=
  { exponent with sign := exponent.sign.unhyphened }

theorem ExponentForm.filter_chars (exponent : ExponentForm) :
    exponent.chars.filter (· ≠ '-') = exponent.unhyphened.chars := by
  have hmark : exponent.mark ≠ '-' := by
    rcases exponent.isMark with hmark | hmark <;> rw [hmark] <;> decide
  rw [chars, List.filter_cons_of_pos (by simpa using hmark), List.filter_append,
    exponent.sign.filter_chars, filter_digits (isDigits_iff.mp exponent.isDigits).2]
  rfl

/-- A decimal without the minus sign of its exponent. -/
def DecimalForm.unhyphened (form : DecimalForm) : DecimalForm :=
  { form with
    exponent := form.exponent.map ExponentForm.unhyphened
    marked := form.marked.imp_right (by simp) }

theorem DecimalForm.filter_chars (form : DecimalForm) :
    form.chars.filter (· ≠ '-') = form.unhyphened.chars := by
  obtain ⟨hwhole, hplaces⟩ := List.forall_mem_append.mp form.isDigit
  have hpoint : (form.places.elim [] ('.' :: ·)).filter (· ≠ '-') =
      form.places.elim [] ('.' :: ·) := by
    cases hform : form.places with
    | none => rfl
    | some places =>
      rw [hform, Option.getD_some] at hplaces
      rw [Option.elim_some, List.filter_cons_of_pos (by decide), filter_digits hplaces]
  have hexponent : (exponentFormChars form.exponent).filter (· ≠ '-') =
      exponentFormChars (form.exponent.map ExponentForm.unhyphened) := by
    cases form.exponent with
    | none => rfl
    | some exponent => exact exponent.filter_chars
  rw [chars, tail, List.filter_append, List.filter_append, filter_digits hwhole, hpoint, hexponent]
  rfl

/-- What stands behind a sign, without hyphens. -/
def BodyForm.unhyphened : BodyForm → BodyForm
  | decimal form => decimal form.unhyphened
  | body => body

theorem BodyForm.filter_chars (body : BodyForm) :
    body.chars.filter (· ≠ '-') = body.unhyphened.chars := by
  cases body with
  | whole digits isDigits => exact filter_digits (isDigits_iff.mp isDigits).2
  | decimal form => exact form.filter_chars
  | infinity letters isInfinity =>
    refine List.filter_eq_self.mpr fun c hc => ?_
    simpa using (wordLetters_apart c (isInfinity.mem_wordLetters hc)).2.2.2

/-- A written number without its hyphens. -/
def NumberForm.unhyphened (form : NumberForm) : NumberForm :=
  ⟨form.sign.unhyphened, form.body.unhyphened⟩

/-- The text of a number without its hyphens is the text of a number. -/
theorem NumberForm.filter_chars (form : NumberForm) :
    form.chars.filter (· ≠ '-') = form.unhyphened.chars := by
  rw [chars, List.filter_append, form.sign.filter_chars, form.body.filter_chars]
  rfl

/-! ## Numbers without a sign -/

/-- The number of the same size that is not below zero. -/
def Binary64.unsigned : Binary64 → Binary64
  | .nan payload => .nan payload
  | .infinite _ => .infinite false
  | .finite _ mantissa exponent canonical => .finite false mantissa exponent canonical

/-- The number of the same size that is not below zero. -/
def Number.unsigned : Number → Number
  | .int n => .int n.natAbs
  | .float x => .float x.unsigned

theorem Binary64.unsigned_pack (negative : Bool) (mantissa exponent : Nat) :
    (pack negative mantissa exponent).unsigned = pack false mantissa exponent := by
  unfold pack
  split <;> rfl

theorem Binary64.unsigned_ofRatio (negative : Bool) (num den : Nat) :
    (ofRatio negative num den).unsigned = ofRatio false num den := by
  unfold ofRatio
  dsimp only
  split <;> exact unsigned_pack ..

/-- Rounding has the sign of the decimal. -/
theorem Binary64.unsigned_ofDecimal (d : Decimal) :
    (ofDecimal d).unsigned = ofDecimal { d with negative := false } := by
  unfold ofDecimal
  dsimp only
  repeat' split
  · rfl
  · rfl
  · rfl
  · exact unsigned_ofRatio ..

namespace BodyForm

/-- Without its sign a number is read as a number without a sign. -/
theorem number_false {body : BodyForm} {negative : Bool} {n : Number}
    (h : body.number negative = .ok n) : body.number false = .ok n.unsigned := by
  cases body with
  | whole digits isDigits =>
    rw [number, readInteger] at h ⊢
    split at h
    · rename_i hlength
      cases h
      rw [if_pos hlength]
      cases negative <;> simp [Binary64.withSign, Number.unsigned]
    · cases h
  | decimal form =>
    cases h
    rw [number, Number.unsigned, Binary64.unsigned_ofDecimal]
    rfl
  | infinity letters isInfinity =>
    cases h
    rfl

/-- Without hyphens a number is read as some number. -/
theorem exists_number_unhyphened {body : BodyForm} {negative : Bool} {n : Number}
    (h : body.number negative = .ok n) (sign : Bool) :
    ∃ m, body.unhyphened.number sign = .ok m := by
  cases body with
  | whole digits isDigits =>
    rw [number, readInteger] at h
    split at h
    · rename_i hlength
      exact ⟨_, if_pos hlength⟩
    · cases h
  | decimal form => exact ⟨_, rfl⟩
  | infinity letters isInfinity => exact ⟨_, rfl⟩

end BodyForm

/-! ## Reading -/

section Reading

variable {text : String} {n : Number} {form : NumberForm}

/-- Blanks at the ends of a text are not looked at. -/
theorem readNumberChars_trimChars (cs : List Char) :
    readNumberChars (Text.trimChars cs) = readNumberChars cs := by
  simp only [readNumberChars, Text.trimChars_trimChars]

/-- What is left of the text of a number is the text of a number. -/
theorem readNumber_withoutHyphens (h : Text.trimChars text.toList = form.chars) :
    readNumber (withoutHyphens text) = some <$> form.unhyphened.number := by
  rw [readNumber, withoutHyphens, String.toList_ofList, ← readNumberChars_trimChars,
    Text.trimChars_filter, h, form.filter_chars, readNumberChars_trimChars,
    form.unhyphened.readNumberChars_chars]

/-- The characters that are left of the text of a number are all but the hyphens. -/
theorem ungroup_point (h : Text.trimChars text.toList = form.chars) :
    ungroup .point text.toList = form.unhyphened.chars := by
  have hkept : ∀ c, (!Separator.skips .point c) = true → Text.isBlank c = false := by
    intro c hc
    simp only [Separator.skips, Bool.not_or, Bool.and_eq_true, Bool.not_eq_true'] at hc
    exact hc.1.1
  rw [ungroup_eq, Separator.toPoint_point, List.map_id, ← Text.filter_trimChars hkept, h,
    ← form.filter_chars]
  refine List.filter_congr fun c hc => ?_
  obtain ⟨hblank, -, hcomma⟩ := form.apart c hc
  simp [Separator.skips, Separator.grouping, hblank, hcomma]

/-- A plain number is read for people as the plain number that is left of it without hyphens. -/
theorem exists_readReadable_point (h : readNumber text = .ok (some n)) :
    ∃ m, readNumber (withoutHyphens text) = .ok (some m) ∧ readReadable .point text = .ok m := by
  obtain ⟨form, hform, hnumber⟩ := exists_form_of_readNumberChars h
  obtain ⟨m, hm⟩ := form.body.exists_number_unhyphened hnumber form.unhyphened.sign.negative
  have hread : readNumberChars form.unhyphened.chars = .ok (some m) := by
    rw [form.unhyphened.readNumberChars_chars, NumberForm.number]
    exact congrArg (some <$> ·) hm
  refine ⟨m, ?_, ?_⟩
  · rw [readNumber_withoutHyphens hform, ← form.unhyphened.readNumberChars_chars, hread]
  · rw [readReadable, ungroup_point hform, readWithUnit, readPlain, hread]
    rfl

/-- If the sign is the only hyphen of a number, the number loses its sign. -/
theorem readNumber_unsigned (h : readNumber text = .ok (some n)) {rest : List Char}
    (htrim : Text.trimChars text.toList = '-' :: rest) (hrest : '-' ∉ rest) :
    readNumber (withoutHyphens text) = .ok (some n.unsigned) := by
  obtain ⟨form, hform, hnumber⟩ := exists_form_of_readNumberChars h
  have hsplit := form.splitSign_chars
  rw [← hform, htrim] at hsplit
  obtain ⟨-, hbody⟩ := Prod.mk.inj hsplit
  have hkept : ('-' :: rest).filter (· ≠ '-') = (NumberForm.mk .absent form.body).chars := by
    rw [List.filter_cons_of_neg (by simp), hbody, List.filter_eq_self.mpr]
    · rfl
    · exact fun c hc => decide_eq_true fun heq => hrest (hbody ▸ heq ▸ hc)
  rw [readNumber, withoutHyphens, String.toList_ofList, ← readNumberChars_trimChars,
    Text.trimChars_filter, htrim, hkept, readNumberChars_trimChars,
    NumberForm.readNumberChars_chars]
  exact congrArg (some <$> ·) (form.body.number_false hnumber)

end Reading

end Intake.Numeric
