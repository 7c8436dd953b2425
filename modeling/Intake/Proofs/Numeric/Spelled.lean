import Intake.Proofs.Numeric.Hyphens

/-!
# Integers in text

An integer may be spelled in many ways: with a sign or without, with zeros in front, with blanks
around it.  However it is spelled it is read as itself.  A number that is written is spelled so if
it is whole and not too large, and so a whole binary number comes back as an integer; every other
number comes back as it was.

## Main definitions

* `SpellsInteger` — the texts that spell an integer.
* `Number.reread` — what a written number is read as.

## Main statements

* `SpellsInteger.readNumber` — a spelled integer is read as itself.
* `spellsInteger_writeInt` — a written integer is one spelling of it.
* `Number.exists_readNumber_write`, `Number.eq_reread` — a written number is read as an equal one.
-/

namespace Intake.Numeric

open Text (isBlank digits)

/-! ## Spellings -/

/-- A text that spells an integer: a sign or none and digits, with blanks or none around them. -/
inductive SpellsInteger : String → Int → Prop
  | intro {text : String} {before ds after : List Char} {k : Nat} (sign : SignForm)
      (isBlank_before : ∀ c ∈ before, isBlank c = true) (spells : Spells ds k)
      (isBlank_after : ∀ c ∈ after, isBlank c = true)
      (toList_eq : text.toList = before ++ (sign.chars ++ ds ++ after)) :
      SpellsInteger text (Binary64.withSign sign.negative k)

variable {text : String} {n : Int}

/-- However an integer is spelled, it is read as itself. -/
theorem SpellsInteger.readNumber (h : SpellsInteger text n) :
    readNumber text = .ok (some (.int n)) := by
  obtain ⟨sign, hbefore, hspells, hafter, htext⟩ := h
  rename_i before ds after k
  have hdigits := isDigits_of_forall hspells.isDigit hspells.ne_nil
  have hform : sign.chars ++ ds = (NumberForm.mk sign (.whole ds hdigits)).chars := rfl
  rw [Numeric.readNumber, htext, ← readNumberChars_trimChars,
    Text.trimChars_append hbefore hafter, readNumberChars_trimChars, hform,
    NumberForm.readNumberChars_chars, NumberForm.number, BodyForm.number, readInteger,
    if_pos hspells.length_le, hspells.value]
  rfl

/-- The sign of a written integer. -/
theorem exists_sign_eq (n : Int) : ∃ sign : SignForm, Text.signChars n = sign.chars ∧
    Binary64.withSign sign.negative n.natAbs = n := by
  by_cases hn : n < 0
  · refine ⟨.minus, if_pos hn, ?_⟩
    simp only [SignForm.negative, Binary64.withSign, if_true]
    omega
  · refine ⟨.absent, if_neg hn, ?_⟩
    simp only [SignForm.negative, Binary64.withSign, Bool.false_eq_true, if_false]
    omega

/-- A written integer is one spelling of it. -/
theorem spellsInteger_writeInt (h : ¬ TooLong n) : SpellsInteger (Text.writeInt n) n := by
  obtain ⟨sign, hsign, hvalue⟩ := exists_sign_eq n
  have hlength : (digits n.natAbs).length ≤ maxDigits :=
    length_digits_le_iff.mpr (Nat.lt_of_not_le h)
  have hspells : Spells (digits n.natAbs) n.natAbs := @spells_zeros_append 0 _ (by omega)
  have htext : (Text.writeInt n).toList = [] ++ (sign.chars ++ digits n.natAbs ++ []) := by
    rw [toList_writeInt, Text.intChars, hsign, List.nil_append, List.append_nil]
  have hspelled := SpellsInteger.intro sign (List.forall_mem_nil _) hspells (List.forall_mem_nil _)
    htext
  rwa [hvalue] at hspelled

/-! ## Written numbers -/

namespace Number

/-- The number that is read where a number was written: a whole binary number below `10 ^ 21` is
written without a point and comes back as an integer. -/
def reread : Number → Number
  | .int n => .int n
  | .float x =>
    match x.toInt? with
    | some k => if k.natAbs < 10 ^ 21 then .int k else .float x
    | none => .float x

/-- A number that is written and read is equal to what it was. -/
theorem eq_reread {n : Number} (h : n.isNaN = false) : n.reread.eq n = true := by
  cases n with
  | int n => exact eq_self h
  | float x =>
    rw [reread]
    split
    · rename_i k hk
      split
      · have hplace := place?_of_toInt? hk
        obtain ⟨p, hp, -⟩ := eq_iff.mp (eq_self h)
        exact eq_iff.mpr ⟨p, hplace ▸ hp, hp⟩
      · exact eq_self h
    · exact eq_self h

/-- A written number is read, as the number itself or as the integer that it is equal to. -/
theorem exists_readNumber_write {n : Number} (hnan : n.isNaN = false) (hn : ¬ n.Unwritable) :
    ∃ s, n.write = .ok s ∧ readNumber s = .ok (some n.reread) := by
  rcases n with n | x
  · rw [unwritable_int] at hn
    exact ⟨Text.writeInt n, writeInteger_of_not_tooLong hn, (spellsInteger_writeInt hn).readNumber⟩
  · cases x with
    | nan payload => cases hnan
    | infinite negative => cases negative <;> exact ⟨_, rfl, rfl⟩
    | finite negative mantissa exponent canonical =>
      generalize hx : Binary64.finite negative mantissa exponent canonical = x
      have hread : readNumber x.write = .ok (some (.float x)) := by
        subst hx
        exact readNumber_write rfl
      have hwrite : (Number.float x).write = match x.toInt? with
          | some k => if k.natAbs < 10 ^ 21 then .ok (Text.writeInt k) else .ok x.write
          | none => .ok x.write := by
        subst hx
        rfl
      rw [hwrite, reread]
      split
      · rename_i k hk
        split
        · rename_i hsmall
          have hshort : ¬ TooLong k :=
            Nat.not_le_of_lt (hsmall.trans_le (Nat.pow_le_pow_right (by decide) (by decide)))
          exact ⟨Text.writeInt k, rfl, (spellsInteger_writeInt hshort).readNumber⟩
        · exact ⟨x.write, rfl, hread⟩
      · exact ⟨x.write, rfl, hread⟩

end Number

end Intake.Numeric
