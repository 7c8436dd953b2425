import Intake.Calendar.Reading
import Intake.Proofs.Calendar.RoundTrip

/-!
# The grammar of written times and zones

A written time is hours and minutes, then perhaps seconds, then perhaps a fraction of them; a zone
is the letter of universal time, or a sign with hours and minutes.  The forms here carry the texts
of their fields, so a text is in the grammar if it is the text of a form.

## Main definitions

* `DigitRun` — a run of digits of bounded length.
* `ClockForm`, `ZoneForm` — written times and zones, with their texts and what they say.
* `ClosesClock` — the texts that cannot go on a time.

## Main statements

* `takeDigits?_chars`, `exists_run_of_takeDigits?` — runs of digits are split off as they are
  written.
* `ClockText.read?_chars`, `ClockText.exists_form_of_read?` — so are times.
* `readOffset?_zoneChars`, `exists_form_of_readOffset?` — zones are read as they are written.
-/

namespace Intake.Calendar

open Text (isDigit digitsValue isBlank)

/-! ## Runs of digits -/

/-- A run of `least` to `most` decimal digits. -/
structure DigitRun (least most : Nat) where
  chars : List Char
  isDigit : ∀ c ∈ chars, Text.isDigit c = true
  least_le : least ≤ chars.length
  le_most : chars.length ≤ most

/-- The number that a run of digits writes. -/
def DigitRun.value {least most : Nat} (run : DigitRun least most) : Nat :=
  digitsValue run.chars

/-- A text does not go on with a digit. -/
def NoDigitNext (rest : List Char) : Prop :=
  ∀ c ∈ rest.head?, isDigit c = false

theorem noDigitNext_nil : NoDigitNext [] := by simp [NoDigitNext]

theorem noDigitNext_cons {c : Char} {rest : List Char} (h : isDigit c = false) :
    NoDigitNext (c :: rest) := by simpa [NoDigitNext] using h

section Runs

variable {least most : Nat} {cs found rest : List Char}

/-- A run of digits is split off where no other digit can be taken. -/
theorem takeDigits?_chars (run : DigitRun least most)
    (h : run.chars.length = most ∨ NoDigitNext rest) :
    takeDigits? least most (run.chars ++ rest) = some (run.chars, rest) := by
  have hrest : (rest.take (most - run.chars.length)).takeWhile isDigit = [] := by
    rcases h with h | h
    · simp [h]
    · cases rest with
      | nil => simp
      | cons c rest =>
        cases most - run.chars.length with
        | zero => rfl
        | succ n => simp [h c rfl]
  have hrun : ((run.chars ++ rest).take most).takeWhile isDigit = run.chars := by
    rw [List.take_append, List.take_of_length_le run.le_most,
      List.takeWhile_append_of_pos run.isDigit, hrest, List.append_nil]
  rw [takeDigits?, hrun, if_pos run.least_le, List.drop_left]

theorem exists_run_of_takeDigits? (h : takeDigits? least most cs = some (found, rest)) :
    ∃ run : DigitRun least most, run.chars = found ∧ cs = found ++ rest := by
  rw [takeDigits?] at h
  split at h
  · rename_i hleast
    cases h
    have hmost : ((cs.take most).takeWhile isDigit).length ≤ most :=
      Nat.le_trans (List.takeWhile_sublist _).length_le (List.length_take_le most cs)
    have hprefix : (cs.take most).takeWhile isDigit <+: cs :=
      (List.takeWhile_prefix _).trans (List.take_prefix most cs)
    exact ⟨⟨_, fun c => List.mem_takeWhile_imp, hleast, hmost⟩, rfl,
      (List.prefix_iff_eq_append.mp hprefix).symm⟩
  · cases h

theorem skip?_eq_some_iff {c : Char} : skip? c cs = some rest ↔ cs = c :: rest := by
  cases cs with
  | nil => simp [skip?]
  | cons d cs =>
    simp only [skip?]
    split <;> simp_all

end Runs


/-! ## Times -/

/-- The digits of a fraction of a second. -/
structure FractionForm where
  digits : List Char
  isDigit : ∀ c ∈ digits, Text.isDigit c = true
  ne_nil : digits ≠ []

/-- The digits of a fraction are all that is taken of a text that they start. -/
def FractionForm.run (fraction : FractionForm) (rest : List Char) :
    DigitRun 1 (fraction.digits.length + rest.length) :=
  ⟨fraction.digits, fraction.isDigit, List.length_pos_iff.mpr fraction.ne_nil, Nat.le_add_right _ _⟩

/-- Seconds, and perhaps a fraction after a point. -/
structure SecondsForm where
  second : DigitRun 1 2
  fraction : Option FractionForm

/-- A written time: hours and minutes, and perhaps seconds after another colon. -/
structure ClockForm where
  hour : DigitRun 1 2
  minute : DigitRun 1 2
  seconds : Option SecondsForm

/-- The text of a fraction, if there is one, with the point before it. -/
def fractionChars (fraction : Option FractionForm) : List Char :=
  fraction.elim [] fun fraction => '.' :: fraction.digits

/-- The text of the seconds, if there are some, with the colon before them. -/
def secondsChars (seconds : Option SecondsForm) : List Char :=
  seconds.elim [] fun seconds => ':' :: (seconds.second.chars ++ fractionChars seconds.fraction)

namespace ClockForm

/-- The text of a time. -/
def chars (clock : ClockForm) : List Char :=
  clock.hour.chars ++ ':' :: (clock.minute.chars ++ secondsChars clock.seconds)

/-- The seconds of a time, zero where none are written. -/
def second (clock : ClockForm) : Nat :=
  clock.seconds.elim 0 (·.second.value)

/-- The digits of the fraction of a time, none where there is no fraction. -/
def fraction (clock : ClockForm) : List Char :=
  (clock.seconds.bind (·.fraction)).elim [] (·.digits)

/-- The microseconds of a time: the first six digits of its fraction, filled up with zeros. -/
def microsecond (clock : ClockForm) : Nat :=
  digitsValue ((clock.fraction ++ List.replicate 6 '0').take 6)

/-- What a time says, field by field. -/
def said (clock : ClockForm) : ClockText :=
  ⟨clock.hour.value, clock.minute.value, clock.second, clock.fraction⟩

end ClockForm

/-- A text does not go on with anything that could belong to a time. -/
def ClosesClock (rest : List Char) : Prop :=
  ∀ c ∈ rest.head?, isDigit c = false ∧ c ≠ ':' ∧ c ≠ '.'

theorem closesClock_nil : ClosesClock [] := by simp [ClosesClock]

theorem ClosesClock.noDigitNext {rest : List Char} (h : ClosesClock rest) : NoDigitNext rest :=
  fun c hc => (h c hc).1

section Clocks

variable {cs rest : List Char}

theorem isDigit_colon : isDigit ':' = false := by decide

theorem isDigit_point : isDigit '.' = false := by decide

/-- The seconds and the fraction of a time are read as they are written. -/
theorem readSeconds_chars (seconds : Option SecondsForm) (h : ClosesClock rest) :
    readSeconds (secondsChars seconds ++ rest) =
      ((seconds.elim 0 (·.second.value), (seconds.bind (·.fraction)).elim [] (·.digits)),
        rest) := by
  have hclosed : ∀ {mark : Char}, (mark = ':' ∨ mark = '.') → skip? mark rest = none := by
    intro mark hmark
    cases rest with
    | nil => rfl
    | cons c rest =>
      obtain ⟨-, hcolon, hpoint⟩ := h c rfl
      rcases hmark with rfl | rfl
      · simp [skip?, hcolon]
      · simp [skip?, hpoint]
  rcases seconds with - | ⟨second, fraction⟩
  · simp [secondsChars, readSeconds, hclosed]
  · rcases fraction with - | fraction
    · have hsecond := takeDigits?_chars second (.inr h.noDigitNext)
      simp [secondsChars, fractionChars, readSeconds, hsecond, hclosed, DigitRun.value]
    · have hpoint : NoDigitNext ('.' :: (fraction.digits ++ rest)) :=
        noDigitNext_cons isDigit_point
      have hsecond := takeDigits?_chars second (.inr hpoint)
      have hfraction := takeDigits?_chars (fraction.run rest) (.inr h.noDigitNext)
      rw [FractionForm.run] at hfraction
      simp [secondsChars, fractionChars, readSeconds, hsecond, hfraction, DigitRun.value]

theorem exists_form_of_readSeconds (cs : List Char) :
    ∃ seconds : Option SecondsForm, cs = secondsChars seconds ++ (readSeconds cs).2 ∧
      (readSeconds cs).1 =
        (seconds.elim 0 (·.second.value), (seconds.bind (·.fraction)).elim [] (·.digits)) := by
  unfold readSeconds
  split
  · exact ⟨none, rfl, rfl⟩
  · rename_i found rest hsecond
    obtain ⟨tail, hcolon, hsecond⟩ := Option.bind_eq_some_iff.mp hsecond
    obtain ⟨second, rfl, rfl⟩ := exists_run_of_takeDigits? hsecond
    obtain rfl := skip?_eq_some_iff.mp hcolon
    split
    · exact ⟨some ⟨second, none⟩, by simp [secondsChars, fractionChars], rfl⟩
    · rename_i found last hfraction
      obtain ⟨tail, hpoint, hfraction⟩ := Option.bind_eq_some_iff.mp hfraction
      obtain ⟨run, rfl, htail⟩ := exists_run_of_takeDigits? hfraction
      obtain rfl := skip?_eq_some_iff.mp hpoint
      have hne : run.chars ≠ [] := List.ne_nil_of_length_pos run.least_le
      refine ⟨some ⟨second, some ⟨run.chars, run.isDigit, hne⟩⟩, ?_, rfl⟩
      simp [secondsChars, fractionChars, ← htail]

/-- A time is read as it is written. -/
theorem ClockText.read?_chars (clock : ClockForm) (h : ClosesClock rest) :
    ClockText.read? (clock.chars ++ rest) = some (clock.said, rest) := by
  have hcolon : NoDigitNext (':' :: (clock.minute.chars ++ (secondsChars clock.seconds ++ rest))) :=
    noDigitNext_cons isDigit_colon
  have hhour := takeDigits?_chars clock.hour (.inr hcolon)
  have hnext : NoDigitNext (secondsChars clock.seconds ++ rest) := by
    cases clock.seconds with
    | none => exact h.noDigitNext
    | some seconds => exact noDigitNext_cons isDigit_colon
  have hminute := takeDigits?_chars clock.minute (.inr hnext)
  simp [ClockText.read?, ClockForm.chars, hhour, hminute, readSeconds_chars clock.seconds h,
    ClockForm.said, ClockForm.second, ClockForm.fraction, DigitRun.value]

theorem ClockText.exists_form_of_read? {said : ClockText}
    (h : ClockText.read? cs = some (said, rest)) :
    ∃ clock : ClockForm, clock.said = said ∧ cs = clock.chars ++ rest := by
  obtain ⟨⟨_, afterHour⟩, hhour, htail⟩ := Option.bind_eq_some_iff.mp h
  obtain ⟨minuteOn, hcolon, htail⟩ := Option.bind_eq_some_iff.mp htail
  obtain ⟨⟨_, afterMinute⟩, hminute, hsaid⟩ := Option.bind_eq_some_iff.mp htail
  have hrest : (readSeconds afterMinute).2 = rest := congrArg Prod.snd (Option.some.inj hsaid)
  have hsaid : ⟨_, _, (readSeconds afterMinute).1.1, (readSeconds afterMinute).1.2⟩ = said :=
    congrArg Prod.fst (Option.some.inj hsaid)
  obtain ⟨hour, rfl, rfl⟩ := exists_run_of_takeDigits? hhour
  obtain rfl := skip?_eq_some_iff.mp hcolon
  obtain ⟨minute, rfl, rfl⟩ := exists_run_of_takeDigits? hminute
  obtain ⟨seconds, hseconds, hfields⟩ := exists_form_of_readSeconds afterMinute
  refine ⟨⟨hour, minute, seconds⟩, ?_, by simp [ClockForm.chars, ← hrest, ← hseconds]⟩
  rw [← hsaid, hfields]
  rfl

end Clocks

/-! ## Zones -/

/-- A written zone: the letter of universal time, or a sign with hours and minutes, perhaps with a
colon between them. -/
inductive ZoneForm where
  | universal (small : Bool)
  | offset (behind : Bool) (hours : DigitRun 2 2) (colon : Bool) (minutes : DigitRun 2 2)

namespace ZoneForm

/-- The hours and minutes of an offset. -/
def sizeChars (hours : DigitRun 2 2) (colon : Bool) (minutes : DigitRun 2 2) : List Char :=
  hours.chars ++ ((if colon then [':'] else []) ++ minutes.chars)

/-- The text of a zone. -/
def chars : ZoneForm → List Char
  | universal small => [if small then 'z' else 'Z']
  | offset behind hours colon minutes =>
    (if behind then '-' else '+') :: sizeChars hours colon minutes

/-- How far a zone is ahead of universal time, in minutes. -/
def minutes : ZoneForm → Int
  | universal _ => 0
  | offset behind hours _ minutes =>
    let size : Int := hours.value * 60 + minutes.value
    if behind then -size else size

end ZoneForm

/-- The text of a zone, if there is one. -/
def zoneChars (zone : Option ZoneForm) : List Char :=
  zone.elim [] ZoneForm.chars

/-- The offset of a zone, if there is one, where a clock can have it. -/
def zoneOffset? (zone : Option ZoneForm) : Option (Option Offset) :=
  zone.elim (some none) fun zone => (Offset.of? zone.minutes).map some

section Zones

variable {cs : List Char}

theorem readOffsetMinutes?_sizeChars (hours : DigitRun 2 2) (colon : Bool)
    (minutes : DigitRun 2 2) :
    readOffsetMinutes? (ZoneForm.sizeChars hours colon minutes) =
      some (60 * hours.value + minutes.value) := by
  have hfull : ∀ run : DigitRun 2 2, run.chars.length = 2 := fun run =>
    Nat.le_antisymm run.le_most run.least_le
  have hhours : ∀ rest, takeDigits? 2 2 (hours.chars ++ rest) = some (hours.chars, rest) :=
    fun rest => takeDigits?_chars hours (.inl (hfull hours))
  have hminutes : takeDigits? 2 2 (minutes.chars ++ []) = some (minutes.chars, []) :=
    takeDigits?_chars minutes (.inl (hfull minutes))
  have hskip : ((skip? ':' ((if colon then [':'] else []) ++ minutes.chars)).getD
      ((if colon then [':'] else []) ++ minutes.chars)) = minutes.chars := by
    cases colon with
    | true => simp
    | false =>
      -- The minutes start with a digit, so there is no colon to skip.
      obtain ⟨c, digits, hdigits⟩ := List.exists_cons_of_length_eq_add_one (hfull minutes)
      have hc : isDigit c = true := minutes.isDigit c (by simp [hdigits])
      have hcolon : c ≠ ':' := by rintro rfl; simp [isDigit_colon] at hc
      simp [hdigits, skip?, hcolon]
  rw [List.append_nil] at hminutes
  simp [readOffsetMinutes?, ZoneForm.sizeChars, hhours, hskip, hminutes, DigitRun.value]

theorem exists_form_of_readOffsetMinutes? {n : Nat} (h : readOffsetMinutes? cs = some n) :
    ∃ hours colon minutes, cs = ZoneForm.sizeChars hours colon minutes := by
  obtain ⟨⟨_, afterHours⟩, hhours, htail⟩ := Option.bind_eq_some_iff.mp h
  obtain ⟨⟨_, rest⟩, hminutes, hend⟩ := Option.bind_eq_some_iff.mp htail
  obtain ⟨hours, rfl, rfl⟩ := exists_run_of_takeDigits? hhours
  obtain ⟨minutes, rfl, hafter⟩ := exists_run_of_takeDigits? hminutes
  have hrest : rest = [] := by
    dsimp only at hend
    split at hend
    · simpa using ‹rest.isEmpty = true›
    · cases hend
  rw [hrest, List.append_nil] at hafter
  cases hskip : skip? ':' afterHours with
  | none =>
    rw [hskip, Option.getD_none] at hafter
    exact ⟨hours, false, minutes, by simp [ZoneForm.sizeChars, hafter]⟩
  | some tail =>
    rw [hskip, Option.getD_some] at hafter
    obtain rfl := skip?_eq_some_iff.mp hskip
    exact ⟨hours, true, minutes, by simp [ZoneForm.sizeChars, hafter]⟩

/-- A zone is read as it is written. -/
theorem readOffset?_zoneChars (zone : Option ZoneForm) :
    readOffset? (zoneChars zone) = zoneOffset? zone := by
  rcases zone with - | small | ⟨behind, hours, colon, minutes⟩
  · rfl
  · cases small <;> rfl
  · have hsize := readOffsetMinutes?_sizeChars hours colon minutes
    cases behind
    · simp [zoneChars, zoneOffset?, ZoneForm.chars, ZoneForm.minutes, readOffset?, hsize,
        Int.mul_comm]
    · simp [zoneChars, zoneOffset?, ZoneForm.chars, ZoneForm.minutes, readOffset?, hsize,
        Int.mul_comm]

theorem exists_form_of_readOffset? {offset : Option Offset} (h : readOffset? cs = some offset) :
    ∃ zone : Option ZoneForm, cs = zoneChars zone := by
  rcases cs with - | ⟨c, cs⟩
  · exact ⟨none, rfl⟩
  · rw [readOffset?] at h
    split at h
    · rename_i hletter
      simp only [Bool.and_eq_true, Bool.or_eq_true, decide_eq_true_eq, List.isEmpty_iff] at hletter
      obtain ⟨rfl | rfl, rfl⟩ := hletter
      · exact ⟨some (.universal false), rfl⟩
      · exact ⟨some (.universal true), rfl⟩
    · split at h
      · obtain rfl := ‹c = '+'›
        obtain ⟨n, hsize, -⟩ := Option.bind_eq_some_iff.mp h
        obtain ⟨hours, colon, minutes, rfl⟩ := exists_form_of_readOffsetMinutes? hsize
        exact ⟨some (.offset false hours colon minutes), rfl⟩
      · split at h
        · obtain rfl := ‹c = '-'›
          obtain ⟨n, hsize, -⟩ := Option.bind_eq_some_iff.mp h
          obtain ⟨hours, colon, minutes, rfl⟩ := exists_form_of_readOffsetMinutes? hsize
          exact ⟨some (.offset true hours colon minutes), rfl⟩
        · cases h

/-- What a zone starts with. -/
theorem head?_zoneChars (zone : Option ZoneForm) :
    ∀ c ∈ (zoneChars zone).head?, c ∈ ['Z', 'z', '+', '-'] := by
  rcases zone with - | small | ⟨behind, hours, colon, minutes⟩
  · simp [zoneChars]
  · cases small <;> simp [zoneChars, ZoneForm.chars]
  · cases behind <;> simp [zoneChars, ZoneForm.chars]

end Zones

end Intake.Calendar
