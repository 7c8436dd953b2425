import Intake.Proofs.Numeric.Limit
import Intake.Proofs.Numeric.Shortest
import Intake.Proofs.Numeric.Written
import Intake.Proofs.Text.Blank
import Intake.Numeric.Reading

/-!
# Written numbers read back

The text of a finite binary number is read as that number again.  A decimal is written in one of two
notations; read back it may have another coefficient and another exponent, but it has the same
value, and the value of the shortest decimal lies in the interval of the number it was taken from.

## Main statements

* `exists_readDecimal?_magnitudeChars` — the text of a decimal is read as a decimal of equal value.
* `readNumber_write` — the text of a finite number is read as the number.
-/

namespace Intake.Numeric

open Text (isDigit digits digitsValue digitsValue_digits digits_ne_nil digitsValue_append
  digitsValue_replicate_zero)

/-! ## Decimals in text -/

section Notation

variable {negative : Bool} {whole places tail : List Char} {exponent : Int} {n : Nat}

theorem takeWhile_append_digits (hwhole : ∀ c ∈ whole, isDigit c = true)
    (htail : ∀ c ∈ tail.head?, isDigit c = false) :
    (whole ++ tail).takeWhile isDigit = whole ∧ (whole ++ tail).dropWhile isDigit = tail := by
  rw [List.takeWhile_append_of_pos hwhole, List.dropWhile_append_of_pos hwhole]
  cases tail with
  | nil => simp
  | cons c cs =>
    have := htail c rfl
    simp [this]

theorem readDecimal?_plain (hwhole : ∀ c ∈ whole, isDigit c = true) (hne : whole ≠ [])
    (htail : ∀ c ∈ tail.head?, isDigit c = false ∧ c ≠ '.')
    (hexponent : readExponent? tail = some exponent) :
    readDecimal? negative (whole ++ tail) = some ⟨negative, digitsValue whole, exponent⟩ := by
  obtain ⟨htake, hdrop⟩ := takeWhile_append_digits hwhole fun c hc => (htail c hc).1
  rw [readDecimal?, htake, hdrop]
  cases tail with
  | nil => simp [hne, hexponent]
  | cons c cs =>
    have := (htail c rfl).2
    simp [hne, hexponent, this]

theorem readDecimal?_point (hwhole : ∀ c ∈ whole, isDigit c = true) (hne : whole ++ places ≠ [])
    (hplaces : ∀ c ∈ places, isDigit c = true)
    (htail : ∀ c ∈ tail.head?, isDigit c = false) (hexponent : readExponent? tail = some exponent) :
    readDecimal? negative (whole ++ '.' :: (places ++ tail)) =
      some ⟨negative, digitsValue (whole ++ places), exponent - places.length⟩ := by
  have hpoint : ∀ c ∈ ('.' :: (places ++ tail)).head?, isDigit c = false := by
    intro c hc
    cases hc
    decide
  obtain ⟨htake, hdrop⟩ := takeWhile_append_digits hwhole hpoint
  obtain ⟨htake', hdrop'⟩ := takeWhile_append_digits hplaces htail
  have hempty : (whole.isEmpty && places.isEmpty) = false := by
    simpa [Bool.eq_false_iff] using hne
  rw [readDecimal?, htake, hdrop]
  simp [hempty, htake', hdrop', hexponent]

theorem isDigit_of_mem_written {c : Char} (h : c ∈ digits n) : isDigit c = true :=
  Text.isDigit_of_isDigit (Text.isDigit_of_mem_digits h)

theorem isDigit_of_mem_zeros {k : Nat} {c : Char} (h : c ∈ List.replicate k '0') :
    isDigit c = true := by
  rw [List.eq_of_mem_replicate h]
  decide

theorem isDigit_of_mem_zero {c : Char} (h : c ∈ ['0']) : isDigit c = true :=
  isDigit_of_mem_zeros (k := 1) h

theorem readDecimal?_places (hwhole : ∀ c ∈ whole, isDigit c = true) (hne : whole ≠ [])
    (hplaces : ∀ c ∈ places, isDigit c = true) :
    readDecimal? negative (whole ++ '.' :: places) =
      some ⟨negative, digitsValue (whole ++ places), -(places.length : Int)⟩ := by
  have := @readDecimal?_point negative whole places [] 0 hwhole (by simp [hne]) hplaces (by simp)
    rfl
  rwa [List.append_nil, zero_sub] at this

/-- What is read from a number with a point has the value of its digits. -/
theorem exists_readDecimal?_places (hwhole : ∀ c ∈ whole, isDigit c = true) (hne : whole ≠ [])
    (hplaces : ∀ c ∈ places, isDigit c = true) {q : ℚ}
    (hq : (digitsValue (whole ++ places) * 10 ^ (-(places.length : Int)) : ℚ) = q) :
    ∃ d, readDecimal? negative (whole ++ '.' :: places) = some d ∧ d.negative = negative ∧
      d.magnitude = q :=
  ⟨_, readDecimal?_places hwhole hne hplaces, rfl, hq⟩

theorem isDigit_of_mem_zeros_append {k : Nat} {c : Char}
    (h : c ∈ List.replicate k '0' ++ digits n) : isDigit c = true := by
  rcases List.mem_append.mp h with h | h
  · exact isDigit_of_mem_zeros h
  · exact isDigit_of_mem_written h

theorem isDigit_of_mem_append_zeros {k : Nat} {c : Char}
    (h : c ∈ digits n ++ List.replicate k '0') : isDigit c = true :=
  isDigit_of_mem_zeros_append (List.mem_append.mpr (List.mem_append.mp h).symm)

theorem digitsValue_zeros_append (k n : Nat) :
    digitsValue (List.replicate k '0' ++ digits n) = n := by
  rw [digitsValue_append, digitsValue_digits, digitsValue_replicate_zero, Nat.zero_mul,
    Nat.zero_add]

theorem digitsValue_append_zeros (k n : Nat) :
    digitsValue (digits n ++ List.replicate k '0') = n * 10 ^ k := by
  rw [digitsValue_append, digitsValue_digits, digitsValue_replicate_zero, List.length_replicate,
    Nat.add_zero]

/-- A decimal that is written positionally is read back, up to a zero after its point. -/
theorem exists_readDecimal?_positionalChars (negative : Bool) (n : Nat) (exponent : Int) :
    ∃ d, readDecimal? negative (positionalChars (digits n) ((digits n).length + exponent)) =
      some d ∧ d.negative = negative ∧ d.magnitude = n * 10 ^ exponent := by
  rw [positionalChars]
  split
  · -- all digits stand after the point, with zeros before them
    rename_i hsmall
    generalize hk : (-((digits n).length + exponent)).toNat = k
    have hvalue : digitsValue (['0'] ++ (List.replicate k '0' ++ digits n)) = n :=
      digitsValue_zeros_append (k + 1) n
    have hlength : -((List.replicate k '0' ++ digits n).length : Int) = exponent := by
      rw [List.length_append, List.length_replicate]
      omega
    exact @exists_readDecimal?_places negative ['0'] _ (fun c hc => isDigit_of_mem_zero hc)
      (by simp) (fun c hc => isDigit_of_mem_zeros_append hc) _ (by rw [hvalue, hlength])
  · split
    · -- all digits stand before the point, with zeros after them
      rename_i hlarge
      obtain ⟨k, rfl⟩ := Int.eq_ofNat_of_zero_le (a := exponent) (by omega)
      have hk : ((digits n).length + (k : Int) - (digits n).length).toNat = k := by omega
      have hvalue : digitsValue (digits n ++ List.replicate k '0' ++ ['0']) = n * 10 ^ (k + 1) := by
        rw [List.append_assoc, ← List.replicate_succ', digitsValue_append_zeros]
      rw [hk]
      refine @exists_readDecimal?_places negative (digits n ++ List.replicate k '0') ['0']
        (fun c hc => isDigit_of_mem_append_zeros hc) (by simp [digits_ne_nil])
        (fun c hc => isDigit_of_mem_zero hc) _ ?_
      rw [hvalue, List.length_singleton, zpow_neg, zpow_natCast, zpow_natCast]
      push_cast
      ring
    · -- the point stands between the digits
      rename_i hpos hlt
      generalize hk : ((digits n).length + exponent).toNat = k
      have hlength : -(((digits n).drop k).length : Int) = exponent := by
        rw [List.length_drop]
        omega
      have hne : (digits n).take k ≠ [] := by
        rw [Ne, List.take_eq_nil_iff]
        have := digits_ne_nil n
        grind
      refine @exists_readDecimal?_places negative ((digits n).take k) ((digits n).drop k)
        (fun c hc => isDigit_of_mem_written (List.mem_of_mem_take hc)) hne
        (fun c hc => isDigit_of_mem_written (List.mem_of_mem_drop hc)) _ ?_
      rw [List.take_append_drop, digitsValue_digits, hlength]

theorem readExponent?_paddedChars (power : Int) : readExponent? ('e' ::
    (if power < 0 then '-' else '+') :: Text.paddedChars 2 power.natAbs) = some power := by
  have hdigits : isDigits (Text.paddedChars 2 power.natAbs) = true := by
    have hlength : 0 < (Text.paddedChars 2 power.natAbs).length := by
      rw [Text.paddedChars_ofNat, List.length_append]
      exact Nat.add_pos_right _ Nat.length_toDigits_pos
    simp only [isDigits, Bool.and_eq_true, Bool.not_eq_true', List.isEmpty_eq_false_iff,
      List.all_eq_true]
    exact ⟨List.ne_nil_of_length_pos hlength, fun c hc =>
      Text.isDigit_of_isDigit (Text.isDigit_of_mem_paddedChars hc)⟩
  have hsign : ∀ cs, splitSign ((if power < 0 then '-' else '+') :: cs) =
      (decide (power < 0), cs) := by
    intro cs
    by_cases hpower : power < 0 <;> simp [hpower, splitSign]
  have hvalue : Binary64.withSign (decide (power < 0)) power.natAbs = power := by
    rw [Binary64.withSign]
    grind
  generalize power.natAbs = k at hdigits hvalue ⊢
  simp [readExponent?, hsign, hdigits, Text.digitsValue_paddedChars, hvalue]

/-- A decimal that is written with an exponent is read back. -/
theorem exists_readDecimal?_exponentChars (negative : Bool) (n : Nat) (exponent : Int) :
    ∃ d, readDecimal? negative (exponentChars (digits n) ((digits n).length + exponent - 1)) =
      some d ∧ d.negative = negative ∧ d.magnitude = n * 10 ^ exponent := by
  generalize hpower : (digits n).length + exponent - 1 = power
  have hexponent := readExponent?_paddedChars power
  have hmark : isDigit 'e' = false ∧ 'e' ≠ '.' := by decide
  have hdigit : ∀ c ∈ digits n, isDigit c = true := fun c => isDigit_of_mem_written
  have hvalue := digitsValue_digits n
  have hne := digits_ne_nil n
  generalize digits n = cs at *
  rcases cs with _ | ⟨first, _ | ⟨second, rest⟩⟩
  · exact absurd rfl hne
  · have hread := @readDecimal?_plain negative [first] _ power hdigit hne (fun c hc => by
      cases hc
      exact hmark) hexponent
    refine ⟨_, hread, rfl, ?_⟩
    rw [Decimal.magnitude]
    dsimp only
    rw [hvalue, ← hpower, List.length_singleton]
    congr 2
    omega
  · have hread := @readDecimal?_point negative [first] (second :: rest) _ power
      (fun c hc => hdigit c (by simp_all)) (by simp)
      (fun c hc => hdigit c (List.mem_cons_of_mem _ hc)) (fun c hc => by
        cases hc
        exact hmark.1) hexponent
    refine ⟨_, hread, rfl, ?_⟩
    rw [Decimal.magnitude]
    dsimp only
    rw [List.singleton_append, hvalue]
    congr 2
    simp only [List.length_cons] at hpower ⊢
    omega

end Notation

/-- The text of a decimal is read back as a decimal of the same value. -/
theorem exists_readDecimal?_magnitudeChars (negative : Bool) (d : Decimal) :
    ∃ read, readDecimal? negative d.magnitudeChars = some read ∧ read.negative = negative ∧
      read.magnitude = d.magnitude := by
  rw [Decimal.magnitudeChars]
  split
  · rename_i hzero
    have hread := @readDecimal?_places negative ['0'] ['0'] (fun c hc => isDigit_of_mem_zero hc)
      (by decide) (fun c hc => isDigit_of_mem_zero hc)
    refine ⟨_, hread, rfl, ?_⟩
    rw [Decimal.magnitude, Decimal.magnitude, hzero]
    have hvalue : digitsValue (['0'] ++ ['0']) = 0 := digitsValue_replicate_zero 2
    rw [hvalue, Nat.cast_zero, zero_mul, zero_mul]
  · dsimp only
    split
    · exact exists_readDecimal?_positionalChars negative d.coefficient d.exponent
    · exact exists_readDecimal?_exponentChars negative d.coefficient d.exponent

/-- The text of a decimal starts with a digit, and not all of it are digits. -/
theorem exists_magnitudeChars_eq (d : Decimal) : ∃ first rest, d.magnitudeChars = first :: rest ∧
    first.isDigit = true ∧ ∃ mark ∈ rest, isDigit mark = false := by
  have hpoint : isDigit '.' = false := by decide
  obtain ⟨first, rest, hdigits⟩ := List.exists_cons_of_ne_nil (digits_ne_nil d.coefficient)
  have hfirst : first.isDigit = true := Text.isDigit_of_mem_digits (hdigits ▸ List.mem_cons_self)
  rw [Decimal.magnitudeChars]
  split
  · exact ⟨'0', ['.', '0'], rfl, rfl, '.', List.mem_cons_self, hpoint⟩
  · dsimp only
    split
    · rw [positionalChars]
      split
      · exact ⟨'0', _, rfl, rfl, '.', List.mem_cons_self, hpoint⟩
      · rename_i hpos
        split
        · rw [hdigits]
          exact ⟨first, _, rfl, hfirst, '.', by simp, hpoint⟩
        · generalize hk : (((digits d.coefficient).length : Int) + d.exponent).toNat = point
          obtain ⟨k, rfl⟩ := Nat.exists_eq_add_one.mpr (by omega : 0 < point)
          rw [hdigits]
          exact ⟨first, _, rfl, hfirst, '.', by simp, hpoint⟩
    · have hmark : isDigit 'e' = false := by decide
      rw [hdigits]
      cases rest with
      | nil => exact ⟨first, _, rfl, hfirst, 'e', by simp, hmark⟩
      | cons second rest => exact ⟨first, _, rfl, hfirst, '.', by simp, hpoint⟩

/-! ## Binary numbers in text -/

/-- What starts with a digit is none of the words for infinity and not-a-number. -/
theorem readSpecial?_of_isDigit {negative : Bool} {first : Char} {rest : List Char}
    (hfirst : first.isDigit = true) : readSpecial? negative (first :: rest) = none := by
  have hrange := Text.isDigit_toNat hfirst
  have hlower : Text.lowerAscii first = first := by
    have hupper : ¬ 'A' ≤ first := by
      intro hle
      have : 'A'.toNat ≤ first.toNat := hle
      have : 'A'.toNat = 65 := rfl
      omega
    simp [Text.lowerAscii, hupper]
  have hi : first ≠ 'i' := by
    rintro rfl
    exact absurd hrange (by decide)
  have hn : first ≠ 'n' := by
    rintro rfl
    exact absurd hrange (by decide)
  simp [readSpecial?, hlower, hi, hn]

/-- A decimal is read as the number in whose interval it lies; the zero of either sign is read from
its own text. -/
theorem ofDecimal_of_magnitude {d : Decimal} {mantissa exponent : Nat}
    (canonical : Canonical mantissa exponent)
    (h : d.magnitude = (shortestDecimal d.negative mantissa exponent).magnitude) :
    Binary64.ofDecimal d = .finite d.negative mantissa exponent canonical := by
  by_cases hzero : mantissa = 0
  · obtain rfl : exponent = 0 := by
      rcases canonical.2.1 with h | h <;> omega
    subst hzero
    have hcoefficient : d.coefficient = 0 := by
      have hmagnitude : d.magnitude = 0 := by
        rw [h, shortestDecimal, if_pos rfl, Decimal.magnitude, Nat.cast_zero, zero_mul]
      simpa [Decimal.magnitude, zpow_ne_zero] using hmagnitude
    rw [Binary64.ofDecimal, if_pos hcoefficient, Binary64.zero]
  · have hpos := Nat.pos_of_ne_zero hzero
    exact Binary64.ofDecimal_of_holds canonical (h ▸ holds_shortestDecimal _ canonical hpos)

/-- The text of a finite number is read back as the number. -/
theorem readNumberChars_chars {negative : Bool} {mantissa exponent : Nat}
    (canonical : Canonical mantissa exponent) :
    readNumberChars (Binary64.finite negative mantissa exponent canonical).chars =
      .ok (some (.float (.finite negative mantissa exponent canonical))) := by
  generalize hx : Binary64.finite negative mantissa exponent canonical = x
  have htrim : Text.trimChars x.chars = x.chars :=
    Text.trimChars_of_forall fun c => Binary64.not_isBlank_of_mem_chars
  have hne := Binary64.chars_ne_nil x
  obtain ⟨first, rest, hword, hfirst, mark, hmark, hmarkDigit⟩ :=
    exists_magnitudeChars_eq (shortestDecimal negative mantissa exponent)
  have hline : '_' ∉ x.chars := by
    intro hmem
    rcases Binary64.isNotation_of_mem_chars (hx ▸ hmem) with h | h
    · exact absurd h (by decide)
    · exact absurd h (by decide)
  have hsign : splitSign x.chars = (negative, first :: rest) := by
    rw [← hx, Binary64.chars, hword]
    cases negative
    · refine splitSign_eq_self fun c hc => ne_sign_of_isDigit ?_
      cases hc
      exact Text.isDigit_of_isDigit hfirst
    · rfl
  have hdigits : isDigits (first :: rest) = false := by
    simp only [isDigits, List.isEmpty_cons, Bool.not_false, Bool.true_and, List.all_eq_false]
    exact ⟨mark, List.mem_cons_of_mem _ hmark, by simp [hmarkDigit]⟩
  obtain ⟨d, hread, rfl, hmagnitude⟩ := exists_readDecimal?_magnitudeChars negative
    (shortestDecimal negative mantissa exponent)
  have hbinary : readBinary64? x.chars = some x := by
    rw [readBinary64?, hsign]
    dsimp only
    rw [readSpecial?_of_isDigit hfirst, ← hword, hread, Option.map_some,
      ofDecimal_of_magnitude canonical hmagnitude, hx]
    rfl
  rw [readNumberChars, htrim]
  simp only [List.isEmpty_eq_false_iff.mpr hne, List.contains_eq_mem, hline, decide_false,
    Bool.or_self, Bool.false_eq_true, if_false, hsign, hdigits, hbinary]
  rw [← hx]

theorem readNumber_write {x : Binary64} (h : x.isFinite = true) :
    readNumber x.write = .ok (some (.float x)) := by
  cases x with
  | nan payload => cases h
  | infinite negative => cases h
  | finite negative mantissa exponent canonical =>
    rw [readNumber, Binary64.write, String.toList_ofList]
    exact readNumberChars_chars canonical

end Intake.Numeric
