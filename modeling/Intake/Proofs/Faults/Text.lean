import Intake.Proofs.Numeric.Limit
import Intake.Proofs.Rule.Alike
import Intake.Proofs.Value.Json

/-!
# Where rules for text fault

A rule whose options are of use rejects what it cannot take.  It faults only where the machinery
gives up: an integer of too many digits has to be written, be it the input or a bound that is
broken, or the search for a pattern loses a group.  So it is in whatever context the input stands.

## Main definitions

* `Chokes`, `LengthChokes` — a bound that is broken but cannot be shown.
* `TextRule.Sound`, `UrlRule.Sound`, `EmailRule.Sound` — rules whose options are of use.
* `TextRule.Breaks`, `UrlRule.Breaks`, `EmailRule.Breaks` — the inputs on which they fault.

## Main statements

* `TextRule.faults_parse`, `UrlRule.faults_parse`, `EmailRule.faults_parse` — they fault on those
  and on no others.
-/

namespace Intake

open Outcome (faults_bind faults_map faults_ofFault bind_eq_ok ofFault_eq_ok)
open Numeric (Number TooLong)

variable {ctx : Context} {type : Value}

/-! ## Bounds -/

section Bounds

/-- A number, or a truth value in its place. -/
def Value.IsNumeric (v : Value) : Prop :=
  ∃ n, v.asNumber? = some n

/-- A bound that is broken but has too many digits to be shown. -/
def Chokes (given : Option Value) (bad : Number → Bool) : Prop :=
  ∃ n, given = some (.int n) ∧ TooLong n ∧ bad (.int n) = true

theorem Value.toNumber_eq_ok {v : Value} {n : Number} :
    v.toNumber = .ok n ↔ v.asNumber? = some n := by
  rw [toNumber]
  cases v.asNumber? <;> simp

theorem Value.display_eq_error_iff {v : Value} (h : v.IsNumeric) :
    (∃ fault, v.display = .error fault) ↔ ∃ n, v = .int n ∧ TooLong n := by
  obtain ⟨n, hn⟩ := h
  cases v <;> simp only [asNumber?, Option.some.injEq, reduceCtorEq] at hn
  · simp [display, literal, int]
  · simp only [display, literal, numberLiteral, Outcome.exists_mapError_eq_error,
      Number.writeLiteral_eq_error_iff]
    simp [Number.Unwritable, int]

theorem Value.exactText_eq_error_iff {v : Value} (h : v.IsNumeric) :
    (∃ fault, v.exactText = .error fault) ↔ ∃ n, v = .int n ∧ TooLong n := by
  obtain ⟨n, hn⟩ := h
  cases v <;> simp only [asNumber?, Option.some.injEq, reduceCtorEq] at hn
  · simp [exactText, literal, int]
  · rw [exactText, Outcome.exists_mapError_eq_error, Number.write_eq_error_iff]
    simp [Number.Unwritable, int]

/-- A check against a bound that is a number faults where the bound is broken and cannot be
shown. -/
theorem faults_checkBound (hctx : ctx.Plain) (htype : ∃ t, type = .text t) {given : Option Value}
    (hgiven : ∀ bound ∈ given, bound.IsNumeric) {bad : Number → Bool}
    {reason : Value → Except Fault String}
    (hreason : ∀ bound : Value, bound.IsNumeric →
      ((∃ fault, reason bound = .error fault) ↔ ∃ n, bound = .int n ∧ TooLong n)) :
    (checkGiven given fun bound => do
      let m ← Outcome.ofFault bound.toNumber
      ctx.rejectIf (bad m) type (reason bound)).Faults ↔ Chokes given bad := by
  rw [faults_checkGiven]
  constructor
  · rintro ⟨bound, hbound, h⟩
    obtain ⟨m, hm⟩ := hgiven bound hbound
    rw [Value.toNumber_eq_ok.mpr hm, Outcome.ofFault_ok, Outcome.ok_bind,
      hctx.faults_rejectIf htype, hreason bound ⟨m, hm⟩] at h
    obtain ⟨hbad, n, rfl, hn⟩ := h
    cases hm
    exact ⟨n, hbound, hn, hbad⟩
  · rintro ⟨n, hbound, hn, hbad⟩
    refine ⟨.int n, hbound, ?_⟩
    have hnumeric : (Value.int n).IsNumeric := ⟨.int n, rfl⟩
    rw [Value.toNumber_eq_ok.mpr (show (Value.int n).asNumber? = some (.int n) from rfl),
      Outcome.ofFault_ok, Outcome.ok_bind, hctx.faults_rejectIf htype, hreason _ hnumeric]
    exact ⟨hbad, n, rfl, hn⟩

/-- A length breaks a bound that cannot be shown. -/
def LengthChokes (minLength maxLength : Option Value) (length : Nat) : Prop :=
  Chokes minLength (Number.lt (.int length)) ∨
    Clears minLength (Number.lt (.int length)) ∧ Chokes maxLength (·.lt (.int length))

theorem faults_checkLength (hctx : ctx.Plain) (htype : ∃ t, type = .text t)
    {minLength maxLength : Option Value} (hmin : ∀ bound ∈ minLength, bound.IsNumeric)
    (hmax : ∀ bound ∈ maxLength, bound.IsNumeric) {length : Nat} :
    (checkLength ctx type minLength maxLength length).Faults ↔
      LengthChokes minLength maxLength length := by
  have hreason : ∀ (name : String) (bound : Value), bound.IsNumeric →
      ((∃ fault, lengthReason name bound = .error fault) ↔ ∃ n, bound = .int n ∧ TooLong n) := by
    intro name bound hbound
    rw [← Value.display_eq_error_iff hbound]
    exact Outcome.exists_map_eq_error
  rw [checkLength, LengthChokes]
  rw [faults_bind, faults_checkBound hctx htype hmin (hreason _)]
  simp only [Outcome.exists_unit, faults_checkBound hctx htype hmax (hreason _)]
  simp [Clears, bind_eq_ok, ofFault_eq_ok]

end Bounds

/-! ## Text -/

namespace TextRule

variable {rule : TextRule} {v : Value}

/-- The bounds of a rule are numbers, and its pattern is one. -/
structure Sound (rule : TextRule) : Prop where
  minLength : ∀ bound ∈ rule.minLength, bound.IsNumeric
  maxLength : ∀ bound ∈ rule.maxLength, bound.IsNumeric
  pattern : ∀ pattern ∈ rule.pattern, ∃ p, pattern = .pattern p

/-- The text of an input: text that is trimmed as the rule asks, or a number that is written. -/
def Reads (rule : TextRule) (v : Value) (s : String) : Prop :=
  rule.taken v = .text s ∨ ∃ n : Number, v = .number n ∧ n.isNaN = false ∧ n.write = .ok s

/-- The inputs on which a rule faults: an integer that is not written, and a text whose length
breaks a bound that is not shown, or in which the search for the pattern loses a group. -/
def Breaks (rule : TextRule) (v : Value) : Prop :=
  (∃ n, v = .int n ∧ TooLong n) ∨
  ∃ s, rule.Reads v s ∧ (rule.nonEmpty.isTruthy = true → s ≠ "") ∧
    (LengthChokes rule.minLength rule.maxLength s.length ∨
      FitsLength rule.minLength rule.maxLength s.length ∧
        ∃ p, rule.pattern = some (.pattern p) ∧ ∃ defect, p.search s = .error defect)

theorem taken_number {n : Number} : rule.taken (.number n) = .number n := by
  rw [taken]
  split <;> rfl

theorem taken_eq_number {n : Number} : rule.taken v = .number n ↔ v = .number n := by
  rw [taken]
  split
  · cases v <;> simp [Value.trimmed]
  · rfl

theorem read_eq_ok_iff {s : String} :
    read ctx type (rule.taken v) = .ok s ↔ rule.Reads v s := by
  have hnumber : ∀ n, v = .number n ↔ rule.taken v = .number n := fun n => taken_eq_number.symm
  simp only [Reads, hnumber]
  cases rule.taken v with
  | text t => simp [read]
  | number n =>
    rw [read]
    cases hnan : n.isNaN with
    | true => simp [hnan]
    | false => cases hwrite : n.write <;> simp [hwrite, hnan]
  | _ => simp [read]

theorem faults_read (hctx : ctx.Plain) (htype : ∃ t, type = .text t) :
    (read ctx type (rule.taken v)).Faults ↔ ∃ n, v = .int n ∧ TooLong n := by
  have hnumber : ∀ n, v = .int n ↔ rule.taken v = .int n := fun n => taken_eq_number.symm
  simp only [hnumber]
  cases rule.taken v with
  | text t => simp [read, Value.int]
  | number n =>
    rw [read]
    split
    · rename_i hnan
      have : ¬ (ctx.rejectKind type (.number n) : Outcome String).Faults :=
        hctx.not_faults_reject htype _
      simp only [this, false_iff, not_exists]
      rintro i ⟨hi, -⟩
      cases hi
      cases hnan
    · rw [faults_ofFault, Outcome.exists_mapError_eq_error, Number.write_eq_error_iff]
      simp [Number.Unwritable, Value.int]
  | _ =>
    simp only [read, Value.int, reduceCtorEq, false_and, exists_false, iff_false]
    exact hctx.not_faults_reject htype _

theorem faults_checkPattern (hrule : rule.Sound) (hctx : ctx.Plain) (htype : ∃ t, type = .text t)
    {s : String} : (checkPattern ctx type rule.pattern s).Faults ↔
      ∃ p, rule.pattern = some (.pattern p) ∧ ∃ defect, p.search s = .error defect := by
  rw [checkPattern]
  rw [faults_checkGiven]
  constructor
  · rintro ⟨pattern, hpattern, h⟩
    obtain ⟨p, rfl⟩ := hrule.pattern pattern hpattern
    refine ⟨p, hpattern, ?_⟩
    rcases faults_bind.mp h with h | ⟨found, -, h⟩
    · rwa [faults_ofFault, Outcome.exists_mapError_eq_error] at h
    · simp [hctx.faults_rejectIf htype] at h
  · rintro ⟨p, hpattern, h⟩
    refine ⟨.pattern p, hpattern, faults_bind.mpr (.inl ?_)⟩
    rwa [faults_ofFault, Outcome.exists_mapError_eq_error]

/-- A sound rule faults on the inputs that break it, and on no others. -/
theorem faults_parse (hrule : rule.Sound) (hctx : ctx.Plain) :
    (rule.parse v ctx).Faults ↔ rule.Breaks v := by
  obtain ⟨t, ht⟩ := rule.exists_expected hctx
  have htype : ∃ s, Value.text t = .text s := ⟨t, rfl⟩
  rw [parse_eq, ht, Outcome.ofFault_ok, Outcome.ok_bind]
  split
  · -- an empty text is rejected before anything can go wrong
    rename_i hempty
    simp only [Bool.and_eq_true] at hempty
    have htaken : rule.taken v = .text "" := by
      cases hv : rule.taken v <;> rw [hv] at hempty <;> simp_all [Value.isEmptyText]
    simp only [hctx.not_faults_reject htype, false_iff]
    rintro (⟨n, rfl, -⟩ | ⟨s, hs, hne, -⟩)
    · rw [Value.int, taken_number] at htaken
      cases htaken
    · rcases hs with hs | ⟨n, rfl, -⟩
      · rw [htaken] at hs
        cases hs
        exact hne hempty.1 rfl
      · rw [taken_number] at htaken
        cases htaken
  · rename_i hempty
    have hne : ∀ s, rule.Reads v s → rule.nonEmpty.isTruthy = true → s ≠ "" := by
      rintro s (hs | ⟨n, -, -, hn⟩) hnonEmpty
      · rintro rfl
        exact hempty (by rw [hnonEmpty, hs]; rfl)
      · exact Numeric.Number.ne_empty_of_write hn
    simp only [faults_bind, faults_read hctx htype, read_eq_ok_iff,
      faults_checkLength hctx htype hrule.minLength hrule.maxLength, Outcome.exists_unit,
      checkLength_eq_ok, faults_checkPattern hrule hctx htype, Outcome.not_faults_ok, and_false,
      or_false, Breaks]
    refine or_congr_right (exists_congr fun s => and_congr_right fun hs => ?_)
    exact (and_iff_right (hne s hs)).symm

/-- A rule that asks for no length and no pattern faults on integers of too many digits only. -/
theorem faults_parse_bare {nonEmpty : Value} (hctx : ctx.Plain) :
    (TextRule.parse { nonEmpty } v ctx).Faults ↔ ∃ n, v = .int n ∧ TooLong n := by
  have hsound : Sound { nonEmpty } := ⟨by simp, by simp, by simp⟩
  rw [faults_parse hsound hctx]
  simp [Breaks, LengthChokes, Chokes]

end TextRule

/-! ## Urls, mail addresses and colours -/

section Links

variable {v : Value}

theorem not_faults_checkPart (hctx : ctx.Plain) (htype : ∃ t, type = .text t) {part : String}
    {asked : Option Value} (hasked : ∀ v ∈ asked, ∃ s, v = .text s) {found : List Char} :
    ¬ (checkPart ctx type part asked found).Faults := by
  rw [checkPart, faults_checkGiven]
  rintro ⟨v, hv, h⟩
  obtain ⟨s, rfl⟩ := hasked v hv
  rw [hctx.faults_rejectIf htype, Outcome.exists_map_eq_error, Value.json] at h
  simp at h

/-- The parts that a rule asks for are texts, and so are the protocols that it lists. -/
structure UrlRule.Sound (rule : UrlRule) : Prop where
  text : rule.text.Sound
  domain : ∀ v ∈ rule.domain, ∃ s, v = .text s
  protocol : ∀ v ∈ rule.protocol, ∃ s, v = .text s
  protocols : ∀ v ∈ rule.protocols, ∃ members, v.members? = some members ∧
    ∀ member ∈ members, ∃ s, member = .text s

/-- The inputs on which a rule for urls faults: those on which its rule for text does, but for the
empty text where that is a url. -/
def UrlRule.Breaks (rule : UrlRule) (v : Value) : Prop :=
  (rule.text.nonEmpty.isTruthy = false → v ≠ .text "") ∧ rule.text.Breaks v

theorem UrlRule.not_faults_checkParts {rule : UrlRule} (hrule : rule.Sound) (hctx : ctx.Plain)
    (htype : ∃ t, type = .text t) {protocol domain : List Char} :
    ¬ (rule.checkParts ctx type protocol domain).Faults := by
  rw [UrlRule.checkParts]
  simp only [faults_bind, faults_checkGiven, not_faults_checkPart hctx htype hrule.domain,
    not_faults_checkPart hctx htype hrule.protocol, and_false, exists_false, or_false, not_exists,
    not_and]
  intro protocols hprotocols h
  obtain ⟨members, hmembers, htexts⟩ := hrule.protocols protocols hprotocols
  have hlisted : protocols.listed = .ok members := by rw [Value.listed, hmembers]
  rcases h with h | ⟨isListed, -, h⟩
  · rw [faults_ofFault] at h
    obtain ⟨fault, h⟩ := h
    simp only [listsProtocol] at h
    split at h
    · cases h
    · rw [hlisted] at h
      cases h
  · rw [hctx.faults_rejectIf htype, protocolsReason, hlisted] at h
    obtain ⟨text, htext⟩ := Value.exists_json_of_texts htexts
    simp [htext] at h

theorem isEmptyText_iff : v.isEmptyText = true ↔ v = .text "" := by
  cases v <;> simp [Value.isEmptyText]

theorem UrlRule.faults_parse {rule : UrlRule} (hrule : rule.Sound) (hctx : ctx.Plain) :
    (rule.parse v ctx).Faults ↔ rule.Breaks v := by
  have htype := hctx.expected "url"
  rw [UrlRule.parse, UrlRule.Breaks]
  split
  · rename_i hempty
    simp_all [isEmptyText_iff]
  · rename_i hempty
    have hne : rule.text.nonEmpty.isTruthy = false → v ≠ .text "" := by
      simpa [isEmptyText_iff] using hempty
    dsimp only
    rw [faults_bind, TextRule.faults_parse hrule.text (hctx.overriding_expected "url"),
      and_iff_right hne, or_iff_left_iff_imp]
    rintro ⟨url, -, h⟩
    split at h
    · exact absurd h (hctx.not_faults_reject htype _)
    · simp [faults_bind, UrlRule.not_faults_checkParts hrule hctx htype] at h

/-- The domain that a rule asks for is a text. -/
structure EmailRule.Sound (rule : EmailRule) : Prop where
  text : rule.text.Sound
  domain : ∀ v ∈ rule.domain, ∃ s, v = .text s

@[inherit_doc UrlRule.Breaks]
def EmailRule.Breaks (rule : EmailRule) (v : Value) : Prop :=
  (rule.text.nonEmpty.isTruthy = false → v ≠ .text "") ∧ rule.text.Breaks v

theorem EmailRule.faults_parse {rule : EmailRule} (hrule : rule.Sound) (hctx : ctx.Plain) :
    (rule.parse v ctx).Faults ↔ rule.Breaks v := by
  have htype := hctx.expected "email"
  rw [EmailRule.parse, EmailRule.Breaks]
  split
  · rename_i hempty
    simp_all [isEmptyText_iff]
  · rename_i hempty
    have hne : rule.text.nonEmpty.isTruthy = false → v ≠ .text "" := by
      simpa [isEmptyText_iff] using hempty
    dsimp only
    rw [faults_bind, TextRule.faults_parse hrule.text (hctx.overriding_expected "email"),
      and_iff_right hne, or_iff_left_iff_imp]
    rintro ⟨email, -, h⟩
    split at h
    · exact absurd h (hctx.not_faults_reject htype _)
    · simp [faults_bind, not_faults_checkPart hctx htype hrule.domain] at h

theorem not_faults_parseColor (hctx : ctx.Plain) : ¬ (parseColor v ctx).Faults := by
  have hreject := fun reason => hctx.not_faults_reject (α := String) (hctx.expected "color") reason
  unfold parseColor
  dsimp only
  split
  · split
    · exact hreject _
    · split
      · exact Outcome.not_faults_ok _
      · exact hreject _
  · exact hreject _

end Links

end Intake
