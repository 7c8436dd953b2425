import Intake.Proofs.Calendar.Grammar.Date

/-!
# Times found in a text

A time is looked for in a text from its start on, and read as far as it goes where it is found.  So
what is found is the first time of the text, and nothing more is asked of the rest: there may be any
text before it and after it.

## Main definitions

* `StartsClock` — the texts that start with a time.
* `FirstClock` — where the first time of a text stands.

## Main statements

* `ClockText.read?_eq_some_iff` — the time at the start of a text is the longest one there.
* `ClockText.find?_eq_some_iff` — the time that is found is the first one.
* `DateForm.firstClock` — the first time of a written date is that of the date.
-/

namespace Intake.Calendar

open Text (isDigit)

/-! ## The longest time -/

/-- A text starts with a time. -/
def StartsClock (cs : List Char) : Prop :=
  ∃ (clock : ClockForm) (rest : List Char), clock.chars ++ rest = cs

/-- No other reading of the text takes more of it as a time. -/
def ClockForm.Longest (clock : ClockForm) (rest : List Char) : Prop :=
  ∀ (other : ClockForm) (tail : List Char), other.chars ++ tail = clock.chars ++ rest →
    other.chars.length ≤ clock.chars.length

section Longest

variable {least most : Nat} {cs found rest tail : List Char} {said : ClockText}

/-- Every run of digits at the start of a text can be split off, and no more is left of the text
than after any of them. -/
theorem exists_takeDigits?_append (run : DigitRun least most) (tail : List Char) :
    ∃ found rest, takeDigits? least most (run.chars ++ tail) = some (found, rest) ∧
      rest.length ≤ tail.length := by
  have hstart : ((run.chars ++ tail).take most).takeWhile isDigit =
      run.chars ++ (tail.take (most - run.chars.length)).takeWhile isDigit := by
    rw [List.take_append, List.take_of_length_le run.le_most,
      List.takeWhile_append_of_pos run.isDigit]
  have hlength : run.chars.length ≤ (((run.chars ++ tail).take most).takeWhile isDigit).length := by
    rw [hstart, List.length_append]
    exact Nat.le_add_right _ _
  refine ⟨_, _, if_pos (Nat.le_trans run.least_le hlength), ?_⟩
  rw [List.length_drop, List.length_append]
  omega

theorem length_le_of_readSeconds (cs : List Char) : (readSeconds cs).2.length ≤ cs.length := by
  obtain ⟨seconds, hcs, -⟩ := exists_form_of_readSeconds cs
  rw [congrArg List.length hcs, List.length_append]
  exact Nat.le_add_left _ _

/-- No more is left of a text than after the seconds that it starts with. -/
theorem length_readSeconds_le (seconds : SecondsForm) (tail : List Char) :
    (readSeconds (secondsChars (some seconds) ++ tail)).2.length ≤ tail.length := by
  obtain ⟨second, fraction⟩ := seconds
  rcases fraction with - | fraction
  · obtain ⟨found, rest, htake, hle⟩ := exists_takeDigits?_append second tail
    have hcs : secondsChars (some ⟨second, none⟩) ++ tail = ':' :: (second.chars ++ tail) := by
      simp [secondsChars, fractionChars]
    rw [hcs, readSeconds, skip?_cons, Option.bind_some, htake]
    dsimp only
    split
    · exact hle
    · rename_i digits last hfraction
      change last.length ≤ tail.length
      obtain ⟨on, hpoint, hfraction⟩ := Option.bind_eq_some_iff.mp hfraction
      obtain ⟨run, rfl, hon⟩ := exists_run_of_takeDigits? hfraction
      obtain rfl := skip?_eq_some_iff.mp hpoint
      simp only [hon, List.length_cons, List.length_append] at hle
      omega
  · have hcs : secondsChars (some ⟨second, some fraction⟩) ++ tail =
        ':' :: (second.chars ++ '.' :: (fraction.digits ++ tail)) := by
      simp [secondsChars, fractionChars]
    have hnext : NoDigitNext ('.' :: (fraction.digits ++ tail)) := noDigitNext_cons isDigit_point
    have hsecond := takeDigits?_chars second (.inr hnext)
    obtain ⟨found, rest, htake, hle⟩ := exists_takeDigits?_append (fraction.run tail) tail
    have htake : takeDigits? 1 (fraction.digits ++ tail).length (fraction.digits ++ tail) =
        some (found, rest) := by
      rw [List.length_append]
      exact htake
    rw [hcs, readSeconds, skip?_cons, Option.bind_some, hsecond]
    dsimp only
    rw [skip?_cons, Option.bind_some, htake]
    exact hle

/-- A text that starts with a time is read, and no more is left of it than after that time. -/
theorem ClockText.exists_read?_append (clock : ClockForm) (tail : List Char) :
    ∃ said rest, ClockText.read? (clock.chars ++ tail) = some (said, rest) ∧
      rest.length ≤ tail.length := by
  obtain ⟨hour, minute, seconds⟩ := clock
  have hnext : NoDigitNext (':' :: (minute.chars ++ (secondsChars seconds ++ tail))) :=
    noDigitNext_cons isDigit_colon
  have hhour := takeDigits?_chars hour (.inr hnext)
  -- where seconds follow, all digits of the minutes are taken; else there may be more of them
  rcases seconds with - | seconds
  · obtain ⟨found, rest, htake, hle⟩ := exists_takeDigits?_append minute tail
    have hread : ClockText.read? ((ClockForm.mk hour minute none).chars ++ tail) =
        some (⟨hour.value, Text.digitsValue found, (readSeconds rest).1.1, (readSeconds rest).1.2⟩,
          (readSeconds rest).2) := by
      simp only [secondsChars, Option.elim_none, List.nil_append] at hhour
      simp [ClockText.read?, ClockForm.chars, secondsChars, hhour, htake, DigitRun.value]
    exact ⟨_, _, hread, Nat.le_trans (length_le_of_readSeconds rest) hle⟩
  · have hnext : NoDigitNext (secondsChars (some seconds) ++ tail) :=
      noDigitNext_cons isDigit_colon
    have hminute := takeDigits?_chars minute (.inr hnext)
    have hread : ClockText.read? ((ClockForm.mk hour minute (some seconds)).chars ++ tail) =
        some (⟨hour.value, minute.value, (readSeconds (secondsChars (some seconds) ++ tail)).1.1,
          (readSeconds (secondsChars (some seconds) ++ tail)).1.2⟩,
          (readSeconds (secondsChars (some seconds) ++ tail)).2) := by
      simp [ClockText.read?, ClockForm.chars, hhour, hminute, DigitRun.value]
    exact ⟨_, _, hread, length_readSeconds_le seconds tail⟩

theorem ClockText.read?_eq_none_iff : ClockText.read? cs = none ↔ ¬ StartsClock cs := by
  constructor
  · rintro h ⟨clock, tail, rfl⟩
    obtain ⟨said, rest, hread, -⟩ := ClockText.exists_read?_append clock tail
    cases h.symm.trans hread
  · intro h
    cases hread : ClockText.read? cs with
    | none => rfl
    | some found =>
      obtain ⟨said, rest⟩ := found
      obtain ⟨clock, -, rfl⟩ := ClockText.exists_form_of_read? hread
      exact absurd ⟨clock, rest, rfl⟩ h

/-- The text of a time says the same in every reading. -/
theorem ClockForm.said_eq_of_chars_eq {clock other : ClockForm} (h : other.chars = clock.chars) :
    other.said = clock.said := by
  have hclock := ClockText.read?_chars clock closesClock_nil
  rw [← h, ClockText.read?_chars other closesClock_nil] at hclock
  exact (Prod.mk.inj (Option.some.inj hclock)).1

/-- The time at the start of a text is the longest one there. -/
theorem ClockText.read?_eq_some_iff : ClockText.read? cs = some (said, rest) ↔
    ∃ clock : ClockForm, clock.said = said ∧ clock.chars ++ rest = cs ∧ clock.Longest rest := by
  constructor
  · intro h
    obtain ⟨clock, hsaid, rfl⟩ := ClockText.exists_form_of_read? h
    refine ⟨clock, hsaid, rfl, fun other tail hother => ?_⟩
    obtain ⟨said', rest', hread, hle⟩ := ClockText.exists_read?_append other tail
    rw [hother, h] at hread
    cases hread
    have hlength := congrArg List.length hother
    simp only [List.length_append] at hlength
    omega
  · rintro ⟨clock, hsaid, rfl, hlongest⟩
    obtain ⟨said', rest', hread, hle⟩ := ClockText.exists_read?_append clock rest
    obtain ⟨found, hfound, hcs⟩ := ClockText.exists_form_of_read? hread
    have hlength : found.chars.length = clock.chars.length := by
      have htotal := congrArg List.length hcs
      simp only [List.length_append] at htotal
      have := hlongest found rest' hcs.symm
      omega
    obtain ⟨hchars, rfl⟩ := List.append_inj hcs.symm hlength
    rw [hread, ← hfound, ← hsaid, ClockForm.said_eq_of_chars_eq hchars]

/-- Where nothing goes on a time, it is the longest one. -/
theorem ClosesClock.longest {clock : ClockForm} (h : ClosesClock rest) : clock.Longest rest := by
  obtain ⟨other, -, hcs, hlongest⟩ :=
    ClockText.read?_eq_some_iff.mp (ClockText.read?_chars clock h)
  rw [ClockForm.Longest, ← List.append_cancel_right hcs]
  exact hlongest

end Longest

/-! ## The first time -/

/-- Where the first time of a text stands: no time starts before it, and it is read as far as it
goes. -/
structure FirstClock (cs before : List Char) (clock : ClockForm) (after : List Char) : Prop where
  split : before ++ (clock.chars ++ after) = cs
  first : ∀ tail, tail ≠ [] → tail <:+ before → ¬ StartsClock (tail ++ (clock.chars ++ after))
  longest : clock.Longest after

namespace FirstClock

variable {cs before after : List Char} {clock : ClockForm} {c : Char}

/-- The first time of a text, if it does not start with one, is that of the rest. -/
theorem cons (hc : ¬ StartsClock (c :: cs)) (h : FirstClock cs before clock after) :
    FirstClock (c :: cs) (c :: before) clock after where
  split := congrArg (c :: ·) h.split
  first := by
    intro tail hne htail
    rcases List.suffix_cons_iff.mp htail with rfl | htail
    · rw [List.cons_append, h.split]
      exact hc
    · exact h.first tail hne htail
  longest := h.longest

theorem of_cons (h : FirstClock (c :: cs) (c :: before) clock after) :
    ¬ StartsClock (c :: cs) ∧ FirstClock cs before clock after := by
  have hfirst := h.first (c :: before) (List.cons_ne_nil _ _) List.suffix_rfl
  rw [h.split] at hfirst
  refine ⟨hfirst, (List.cons.inj h.split).2, fun tail hne htail => ?_, h.longest⟩
  exact h.first tail hne (htail.trans (List.suffix_cons c before))

/-- A text that is a time as a whole has no first time but itself. -/
theorem eq_nil_of_chars {whole : ClockForm} (h : FirstClock whole.chars before clock after) :
    before = [] ∧ after = [] := by
  obtain rfl : before = [] := by
    by_contra hne
    refine h.first before hne List.suffix_rfl ⟨whole, [], ?_⟩
    rw [List.append_nil, h.split]
  have hwhole : whole.chars ++ [] = clock.chars ++ after := by
    rw [List.append_nil]
    exact h.split.symm
  have hle := h.longest whole [] hwhole
  have hlength := congrArg List.length hwhole
  simp only [List.length_append, List.length_nil] at hlength
  exact ⟨rfl, List.eq_nil_of_length_eq_zero (by omega)⟩

/-- A time as a whole text is the first one of it. -/
theorem whole (clock : ClockForm) : FirstClock clock.chars [] clock [] where
  split := List.append_nil _
  first := fun _ hne htail => absurd (List.suffix_nil.mp htail) hne
  longest := closesClock_nil.longest

end FirstClock

/-- The time that is found in a text is the first one. -/
theorem ClockText.find?_eq_some_iff {cs : List Char} {said : ClockText} :
    ClockText.find? cs = some said ↔
      ∃ before clock after, FirstClock cs before clock after ∧ clock.said = said := by
  induction cs with
  | nil =>
    constructor
    · intro h
      cases h
    · rintro ⟨before, clock, after, hfirst, -⟩
      have := congrArg List.length hfirst.split
      simp [ClockForm.chars] at this
  | cons c cs ih =>
    rw [ClockText.find?]
    split
    · rename_i found rest hread
      obtain ⟨clock, hsaid, hcs, hlongest⟩ := ClockText.read?_eq_some_iff.mp hread
      constructor
      · intro h
        cases h
        refine ⟨[], clock, rest, ⟨hcs, fun tail hne htail => ?_, hlongest⟩, hsaid⟩
        exact absurd (List.suffix_nil.mp htail) hne
      · rintro ⟨before, other, after, hfirst, hother⟩
        rcases before with - | ⟨b, before⟩
        · have := ClockText.read?_eq_some_iff.mpr ⟨other, hother, hfirst.split, hfirst.longest⟩
          rw [hread] at this
          exact congrArg some (Prod.mk.inj (Option.some.inj this)).1
        · obtain ⟨rfl, -⟩ := List.cons.inj hfirst.split
          exact absurd ⟨clock, rest, hcs⟩ hfirst.of_cons.1
    · rename_i hread
      have hstarts := ClockText.read?_eq_none_iff.mp hread
      rw [ih]
      constructor
      · rintro ⟨before, clock, after, hfirst, hsaid⟩
        exact ⟨c :: before, clock, after, hfirst.cons hstarts, hsaid⟩
      · rintro ⟨before, clock, after, hfirst, hsaid⟩
        rcases before with - | ⟨b, before⟩
        · exact absurd ⟨clock, after, hfirst.split⟩ hstarts
        · obtain ⟨rfl, -⟩ := List.cons.inj hfirst.split
          exact ⟨before, clock, after, hfirst.of_cons.2, hsaid⟩

/-! ## Times after dates -/

/-- No time starts in a part without colons that no digit ends. -/
theorem not_startsClock_append {before rest : List Char} (hne : before ≠ [])
    (hcolon : ':' ∉ before) (hlast : ∀ c ∈ before.getLast?, isDigit c = false) :
    ¬ StartsClock (before ++ rest) := by
  have hend : ∀ cs : List Char, (∀ c ∈ cs, isDigit c = true) → ¬ before <+: cs := by
    intro cs hcs hstart
    have hmem := List.getLast_mem hne
    have := hlast _ (List.getLast?_eq_some_getLast hne)
    rw [hcs _ (hstart.subset hmem)] at this
    cases this
  rintro ⟨clock, tail, h⟩
  rw [ClockForm.chars, List.append_assoc, List.cons_append] at h
  rcases List.append_eq_append_iff.mp h with ⟨on, hbefore, htail⟩ | ⟨on, hhour, -⟩
  · rcases on with - | ⟨c, on⟩
    · rw [List.append_nil] at hbefore
      exact hend _ clock.hour.isDigit (hbefore ▸ List.prefix_rfl)
    · obtain ⟨rfl, -⟩ := List.cons.inj htail
      exact hcolon (hbefore ▸ by simp)
  · exact hend _ clock.hour.isDigit (hhour ▸ List.prefix_append _ _)

theorem DigitRun.not_mem_chars {least most : Nat} (run : DigitRun least most) {c : Char}
    (hdigit : Text.isDigit c = false) : c ∉ run.chars := by
  intro hc
  rw [run.isDigit c hc] at hdigit
  cases hdigit

/-- The text of a time holds digits, colons and points only. -/
theorem ClockForm.not_mem_chars {clock : ClockForm} {c : Char} (hdigit : isDigit c = false)
    (hcolon : c ≠ ':') (hpoint : c ≠ '.') : c ∉ clock.chars := by
  obtain ⟨hour, minute, seconds⟩ := clock
  rcases seconds with - | ⟨second, - | fraction⟩
  · simp [ClockForm.chars, secondsChars, DigitRun.not_mem_chars, hdigit, hcolon]
  · simp [ClockForm.chars, secondsChars, fractionChars, DigitRun.not_mem_chars, hdigit, hcolon]
  · have hfraction : c ∉ fraction.digits := (fraction.run []).not_mem_chars hdigit
    simp [ClockForm.chars, secondsChars, fractionChars, DigitRun.not_mem_chars, hdigit, hcolon,
      hpoint, hfraction]

/-- The text of a date alone holds digits and hyphens only. -/
theorem DateForm.not_mem_chars {form : DateForm} {c : Char} (htime : form.time = none)
    (hdigit : isDigit c = false) (hhyphen : c ≠ '-') : c ∉ form.chars := by
  simp [DateForm.chars, DateForm.timeChars, htime, DigitRun.not_mem_chars, hdigit, hhyphen]

/-- The text of a date up to the time after it. -/
def DateForm.upTo (form : DateForm) (mark : Char) : List Char :=
  form.year.chars ++ '-' :: (form.month.chars ++ '-' :: form.day.chars) ++ [mark]

/-- The first time of a written date is that of the date. -/
theorem DateForm.firstClock {form : DateForm} {time : TimeForm} (h : form.time = some time) :
    FirstClock form.chars (form.upTo time.mark) time.clock
      (time.blanks ++ zoneChars time.zone) where
  split := by simp [upTo, DateForm.chars, timeChars, h, TimeForm.chars]
  first := by
    intro tail hne htail
    have hmark : isDigit time.mark = false ∧ time.mark ≠ ':' := by
      have := time.mark_mem
      simp only [List.mem_cons, List.not_mem_nil, or_false] at this
      rcases this with heq | heq | heq <;> rw [heq] <;> decide
    have hcolon : ':' ∉ form.upTo time.mark := by
      simp [upTo, DigitRun.not_mem_chars, isDigit_colon, Ne.symm hmark.2]
    refine not_startsClock_append hne (fun hmem => hcolon (htail.subset hmem)) ?_
    obtain ⟨start, hstart⟩ := htail
    have hlast : tail.getLast? = some time.mark := by
      rw [← List.getLast?_append_of_ne_nil start hne, hstart, upTo, List.getLast?_concat]
    simpa [hlast] using hmark.1
  longest := time.closesClock.longest

end Intake.Calendar
