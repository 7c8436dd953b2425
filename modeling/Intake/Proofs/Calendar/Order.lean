import Intake.Proofs.Calendar.RoundTrip

/-!
# Canonical texts in order

Every field of a canonical date or time has a width of its own, and the larger units stand first.
So the texts come in the order of what they say, unit by unit.

## Main definitions

* `Day.units`, `TimeOfDay.units`, `Moment.units` — what a calendar and a clock show, the largest
  unit first.

## Main statements

* `Text.paddedChars_append_lt_iff` — fields of one width are in the order of their numbers.
* `writeDate_lt_iff`, `writeTime_lt_iff`, `writeStamp_lt_iff` — canonical texts are in the order of
  what they say.
-/

namespace Intake

/-! ## Fields in order -/

/-- Where two lists begin with parts of the same length, what follows matters only if these are the
same. -/
theorem append_lt_append_iff {α : Type} [LT α] {xs ys cs ds : List α}
    (hlength : xs.length = ys.length) : xs ++ cs < ys ++ ds ↔ xs < ys ∨ xs = ys ∧ cs < ds := by
  induction xs generalizing ys with
  | nil =>
    obtain rfl := List.length_eq_zero_iff.mp hlength.symm
    simp
  | cons x xs ih =>
    obtain ⟨y, ys, rfl⟩ := List.exists_cons_of_length_eq_add_one hlength.symm
    have hlength : xs.length = ys.length := by simpa using hlength
    simp only [List.cons_append, List.cons_lt_cons_iff, ih hlength, List.cons.injEq]
    tauto

namespace Text

variable {c : Char} {cs ds : List Char} {width n m : Nat}

/-- The first of some digits counts for the power of ten of those that follow. -/
theorem digitsValue_cons (hc : c.isDigit = true) (hcs : ∀ d ∈ cs, d.isDigit = true) :
    digitsValue (c :: cs) = (c.toNat - 48) * 10 ^ cs.length + digitsValue cs := by
  have hall : ∀ d ∈ c :: cs, d.isDigit = true := List.forall_mem_cons.mpr ⟨hc, hcs⟩
  have hzero : '0'.toNat = 48 := rfl
  rw [digitsValue_eq hall, digitsValue_eq hcs, Nat.ofDigitChars_cons,
    Nat.ofDigitChars_eq_ofDigitChars_zero, hzero, Nat.mul_zero, Nat.zero_add, Nat.mul_comm]

/-- Runs of as many digits are in the order of their values. -/
theorem lt_iff_digitsValue_lt (hcs : ∀ c ∈ cs, c.isDigit = true) (hds : ∀ d ∈ ds, d.isDigit = true)
    (hlength : cs.length = ds.length) : cs < ds ↔ digitsValue cs < digitsValue ds := by
  induction cs generalizing ds with
  | nil =>
    obtain rfl := List.length_eq_zero_iff.mp hlength.symm
    simp
  | cons c cs ih =>
    obtain ⟨d, ds, rfl⟩ := List.exists_cons_of_length_eq_add_one hlength.symm
    obtain ⟨hc, hcs⟩ := List.forall_mem_cons.mp hcs
    obtain ⟨hd, hds⟩ := List.forall_mem_cons.mp hds
    have hlength : cs.length = ds.length := by simpa using hlength
    have hc' := isDigit_toNat hc
    have hd' := isDigit_toNat hd
    have hchar : c < d ↔ c.toNat < d.toNat := Iff.rfl
    have hltC := digitsValue_lt cs
    have hltD := digitsValue_lt ds
    rw [List.cons_lt_cons_iff, ih hcs hds hlength, digitsValue_cons hc hcs, digitsValue_cons hd hds,
      hlength, hchar, ← Char.toNat_inj]
    rw [hlength] at hltC
    rcases Nat.lt_trichotomy c.toNat d.toNat with h | h | h
    · have : (c.toNat - 48 + 1) * 10 ^ ds.length ≤ (d.toNat - 48) * 10 ^ ds.length :=
        Nat.mul_le_mul_right _ (by omega)
      rw [Nat.add_mul] at this
      omega
    · rw [h]
      omega
    · have : (d.toNat - 48 + 1) * 10 ^ ds.length ≤ (c.toNat - 48) * 10 ^ ds.length :=
        Nat.mul_le_mul_right _ (by omega)
      rw [Nat.add_mul] at this
      omega

/-- Numbers in fields of the same width are in order, and what follows them matters only where they
are the same. -/
theorem paddedChars_append_lt_iff (hwidth : 0 < width) (hn : n < 10 ^ width) (hm : m < 10 ^ width) :
    paddedChars width n ++ cs < paddedChars width m ++ ds ↔ n < m ∨ n = m ∧ cs < ds := by
  have hlength : (paddedChars width n).length = (paddedChars width m).length := by
    rw [length_paddedChars hwidth hn, length_paddedChars hwidth hm]
  have hsame : paddedChars width n = paddedChars width m ↔ n = m := by
    constructor
    · intro h
      rw [← digitsValue_paddedChars width n, h, digitsValue_paddedChars]
    · intro h
      rw [h]
  rw [append_lt_append_iff hlength, hsame, lt_iff_digitsValue_lt
    (fun _ => isDigit_of_mem_paddedChars) (fun _ => isDigit_of_mem_paddedChars) hlength,
    digitsValue_paddedChars, digitsValue_paddedChars]

theorem paddedChars_lt_iff (hwidth : 0 < width) (hn : n < 10 ^ width) (hm : m < 10 ^ width) :
    paddedChars width n < paddedChars width m ↔ n < m := by
  have : paddedChars width n ++ [] < paddedChars width m ++ [] ↔
      n < m ∨ n = m ∧ ([] : List Char) < [] :=
    paddedChars_append_lt_iff hwidth hn hm
  simpa using this

end Text

namespace Calendar

open Text (paddedChars paddedChars_append_lt_iff paddedChars_lt_iff)

/-! ## Units -/

/-- What a calendar shows, the largest unit first. -/
def Day.units (d : Day) : List Nat :=
  [d.year, d.month, d.day]

/-- What a clock shows, the largest unit first. -/
def TimeOfDay.units (t : TimeOfDay) : List Nat :=
  [t.hour, t.minute, t.second, t.microsecond]

/-- What a calendar and a clock show of a moment, cut to a precision. -/
def Moment.units (m : Moment) (precision : Precision) : List Nat :=
  m.day.units ++ (m.time.cut precision).units

/-! ## Texts in order -/

/-- Fields of two digits. -/
theorem two_append_lt_iff {n m : Nat} {cs ds : List Char} (hn : n < 100) (hm : m < 100) :
    paddedChars 2 n ++ cs < paddedChars 2 m ++ ds ↔ n < m ∨ n = m ∧ cs < ds :=
  paddedChars_append_lt_iff (by decide) hn hm

theorem two_lt_iff {n m : Nat} (hn : n < 100) (hm : m < 100) :
    paddedChars 2 n < paddedChars 2 m ↔ n < m :=
  paddedChars_lt_iff (by decide) hn hm

theorem Day.month_lt (d : Day) : d.month < 100 :=
  Nat.lt_of_le_of_lt d.month_le (by decide)

theorem Day.day_lt (d : Day) : d.day < 100 :=
  Nat.lt_of_le_of_lt (Nat.le_trans d.day_le (monthLength_le _ _)) (by decide)

theorem writeDate_append_lt_iff {a b : Day} {cs ds : List Char} :
    (writeDate a).toList ++ cs < (writeDate b).toList ++ ds ↔
      a.units < b.units ∨ a.units = b.units ∧ cs < ds := by
  have hyear : ∀ {xs ys}, paddedChars 4 a.year ++ xs < paddedChars 4 b.year ++ ys ↔
      a.year < b.year ∨ a.year = b.year ∧ xs < ys :=
    paddedChars_append_lt_iff (by decide) (Nat.lt_of_le_of_lt a.year_le (by decide))
      (Nat.lt_of_le_of_lt b.year_le (by decide))
  simp only [toList_writeDate, List.append_assoc, List.cons_append, hyear, List.cons_lt_cons_self,
    two_append_lt_iff a.month_lt b.month_lt, two_append_lt_iff a.day_lt b.day_lt, Day.units,
    List.cons_lt_cons_iff, List.lt_irrefl, List.cons.injEq, and_false, or_false, and_true]
  tauto

/-- Dates are in the order of their days. -/
theorem writeDate_lt_iff {a b : Day} : writeDate a < writeDate b ↔ a.units < b.units := by
  have : (writeDate a).toList ++ [] < (writeDate b).toList ++ [] ↔
      a.units < b.units ∨ a.units = b.units ∧ ([] : List Char) < [] :=
    writeDate_append_lt_iff
  rw [String.lt_iff]
  simpa using this

/-- Times of day are in the order of what is written of them. -/
theorem writeTime_lt_iff {a b : TimeOfDay} (precision : Precision) :
    writeTime a precision < writeTime b precision ↔
      (a.cut precision).units < (b.cut precision).units := by
  have hhour : ∀ {xs ys}, paddedChars 2 a.hour ++ xs < paddedChars 2 b.hour ++ ys ↔
      a.hour < b.hour ∨ a.hour = b.hour ∧ xs < ys :=
    two_append_lt_iff (Nat.lt_trans a.hour_lt (by decide)) (Nat.lt_trans b.hour_lt (by decide))
  have ha : a.minute < 100 := Nat.lt_trans a.minute_lt (by decide)
  have hb : b.minute < 100 := Nat.lt_trans b.minute_lt (by decide)
  have hsecondA : a.second < 100 := Nat.lt_trans a.second_lt (by decide)
  have hsecondB : b.second < 100 := Nat.lt_trans b.second_lt (by decide)
  have hmilli : paddedChars 3 a.millisecond < paddedChars 3 b.millisecond ↔
      a.microsecond / 1000 * 1000 < b.microsecond / 1000 * 1000 := by
    rw [paddedChars_lt_iff (by decide) a.millisecond_lt b.millisecond_lt]
    simp [TimeOfDay.millisecond]
  rw [String.lt_iff, writeTime, writeTime, toList_writeClock, toList_writeClock]
  cases precision <;>
    simp [hhour, two_append_lt_iff ha hb, two_lt_iff ha hb, two_append_lt_iff hsecondA hsecondB,
      two_lt_iff hsecondA hsecondB, hmilli, TimeOfDay.cut, TimeOfDay.units, List.cons_lt_cons_iff]

/-- Dates with times are in the order of what is written of them. -/
theorem writeStamp_lt_iff {a b : Moment} (precision : Precision) :
    writeStamp a precision < writeStamp b precision ↔ a.units precision < b.units precision := by
  have hlength : a.day.units.length = b.day.units.length := rfl
  rw [String.lt_iff, toList_writeStamp, toList_writeStamp, writeDate_append_lt_iff,
    List.cons_lt_cons_self, ← String.lt_iff, writeTime_lt_iff, Moment.units, Moment.units,
    append_lt_append_iff hlength]

end Calendar

end Intake
