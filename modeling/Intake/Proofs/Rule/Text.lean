import Intake.Rule.Text
import Intake.Rule.Link
import Intake.Proofs.Context
import Intake.Proofs.Numeric.Written
import Intake.Proofs.Text.Blank

/-!
# Texts that rules accept

A rule for text accepts an input where every one of its checks passes.  The text that comes out is
trimmed as the rule asks, so that it passes the same checks when it comes in again.

## Main definitions

* `TextRule.taken` — an input, trimmed as a rule asks.
* `Clears`, `FitsLength` — a bound that is kept, and a length within bounds.

## Main statements

* `TextRule.parse_eq_ok_iff` — when a text rule accepts.
* `TextRule.parse_settles`, `UrlRule.parse_settles`, `EmailRule.parse_settles`,
  `parseColor_settles` — what a rule gives out, it takes in unchanged.
-/

namespace Intake

open Outcome (bind_eq_ok check_bind_eq_ok ofFault_eq_ok)

/-! ## Checks -/

@[simp] theorem checkGiven_eq_ok {α : Type} {given : Option α} {check : α → Outcome Unit} :
    checkGiven given check = .ok () ↔ ∀ a ∈ given, check a = .ok () := by
  cases given <;> simp [checkGiven]

/-- A bound that is given is a number, and it is not the case that `bad` is true of it. -/
def Clears (given : Option Value) (bad : Numeric.Number → Bool) : Prop :=
  ∀ bound ∈ given, ∃ m, bound.toNumber = .ok m ∧ bad m = false

@[simp] theorem clears_none (bad : Numeric.Number → Bool) : Clears none bad :=
  fun _ hbound => nomatch hbound

/-- A length is within bounds. -/
def FitsLength (minLength maxLength : Option Value) (length : Nat) : Prop :=
  Clears minLength (Numeric.Number.lt (.int length)) ∧ Clears maxLength (·.lt (.int length))

theorem checkLength_eq_ok {ctx : Context} {expected : Value} {minLength maxLength : Option Value}
    {length : Nat} : checkLength ctx expected minLength maxLength length = .ok () ↔
      FitsLength minLength maxLength length := by
  simp [checkLength, FitsLength, Clears, bind_eq_ok, ofFault_eq_ok]

/-! ## Text rules -/

namespace TextRule

variable {rule : TextRule} {v : Value} {ctx : Context} {s : String}

/-- An input, trimmed as the rule asks. -/
def taken (rule : TextRule) (v : Value) : Value :=
  if rule.trim.isTruthy then v.trimmed else v

/-- In a plain context a rule can always say what it expects. -/
theorem exists_expected (rule : TextRule) (h : ctx.Plain) :
    ∃ type, rule.expected ctx = .ok (.text type) := by
  obtain ⟨t, ht⟩ := h.expected "string"
  unfold expected
  rw [ht]
  split
  · exact ⟨_, rfl⟩
  · exact ⟨t, rfl⟩

theorem parse_eq : rule.parse v ctx = Outcome.ofFault (rule.expected ctx) >>= fun expected =>
    if rule.nonEmpty.isTruthy && (rule.taken v).isEmptyText then
      ctx.reject expected "got empty string"
    else read ctx expected (rule.taken v) >>= fun s =>
      checkLength ctx expected rule.minLength rule.maxLength s.length >>= fun _ =>
      checkPattern ctx expected rule.pattern s >>= fun _ => .ok s := rfl

/-- A rule accepts an input that it can read, that is something where it asks for something, and
that passes its checks. -/
theorem parse_eq_ok_iff : rule.parse v ctx = .ok s ↔
    ∃ expected, rule.expected ctx = .ok expected ∧
      (rule.nonEmpty.isTruthy && (rule.taken v).isEmptyText) = false ∧
      read ctx expected (rule.taken v) = .ok s ∧
      FitsLength rule.minLength rule.maxLength s.length ∧
      checkPattern ctx expected rule.pattern s = .ok () := by
  rw [parse_eq, bind_eq_ok]
  refine exists_congr fun expected => ?_
  rw [ofFault_eq_ok]
  refine and_congr_right fun _ => ?_
  cases rule.nonEmpty.isTruthy && (rule.taken v).isEmptyText with
  | true => simp
  | false =>
    simp only [Bool.false_eq_true, if_false, true_and, bind_eq_ok, Outcome.exists_unit,
      checkLength_eq_ok]
    constructor
    · rintro ⟨s, hread, hlength, hpattern, h⟩
      cases h
      exact ⟨hread, hlength, hpattern⟩
    · rintro ⟨hread, hlength, hpattern⟩
      exact ⟨s, hread, hlength, hpattern, rfl⟩

/-- What is read is the text itself, or a number that is written out. -/
theorem read_cases {expected : Value} (h : read ctx expected v = .ok s) :
    v = .text s ∨ ∃ n : Numeric.Number, n.write = .ok s := by
  cases v with
  | text t => cases h; exact .inl rfl
  | number n =>
    rw [read] at h
    split at h
    · exact absurd h (ctx.rejectKind_ne_ok expected s _)
    · rw [ofFault_eq_ok] at h
      cases hn : n.write with
      | error limit => rw [hn] at h; cases h
      | ok t => rw [hn] at h; cases h; exact .inr ⟨n, hn⟩
  | _ => exact absurd h (ctx.rejectKind_ne_ok expected s _)

/-- The text that is read is trimmed already, if the rule asks for it. -/
theorem taken_text {expected : Value} (h : read ctx expected (rule.taken v) = .ok s) :
    rule.taken (.text s) = .text s := by
  unfold taken at h ⊢
  split
  · rename_i htrim
    rw [if_pos htrim] at h
    rcases read_cases h with hv | ⟨n, hn⟩
    · cases v <;> cases hv
      simp [Value.trimmed]
    · have : Text.trimChars s.toList = s.toList :=
        Text.trimChars_of_forall fun c => Numeric.Number.not_isBlank_of_write hn
      simp [Value.trimmed, Text.trim, this]
  · rfl

/-- The text that comes out is something, if the rule asks for it. -/
theorem isEmptyText_eq_false {expected : Value} (h : read ctx expected v = .ok s)
    (hv : v.isEmptyText = false) : (Value.text s).isEmptyText = false := by
  rcases read_cases h with rfl | ⟨n, hn⟩
  · exact hv
  · simp [Value.isEmptyText, Numeric.Number.ne_empty_of_write hn]

/-- The text that a rule gives out passes the checks that the input has passed. -/
theorem parse_settles (h : rule.parse v ctx = .ok s) : rule.parse (.text s) ctx = .ok s := by
  obtain ⟨expected, hexpected, hempty, hread, hlength, hpattern⟩ := parse_eq_ok_iff.mp h
  have htaken := taken_text hread
  refine parse_eq_ok_iff.mpr ⟨expected, hexpected, ?_, ?_, hlength, hpattern⟩
  · rw [htaken, Bool.and_eq_false_iff]
    exact (Bool.and_eq_false_iff.mp hempty).imp_right (isEmptyText_eq_false hread)
  · rw [htaken]
    rfl

/-- A rule that asks for no length and no pattern accepts every text that is not blank. -/
theorem parse_bare_eq_trim {nonEmpty : Value} (h : ctx.Plain) (hne : Text.trim s ≠ "") :
    TextRule.parse { nonEmpty } (.text s) ctx = .ok (Text.trim s) := by
  obtain ⟨type, htype⟩ := exists_expected { nonEmpty } h
  have htaken : taken { nonEmpty } (.text s) = .text (Text.trim s) := rfl
  refine parse_eq_ok_iff.mpr ⟨.text type, htype, ?_, ?_, ?_, ?_⟩
  · simp [htaken, Value.isEmptyText, hne]
  · rw [htaken]
    rfl
  · exact ⟨clears_none _, clears_none _⟩
  · simp [checkPattern]

/-- Text that is trimmed already is accepted as it is, if it is something. -/
theorem parse_bare {nonEmpty : Value} (h : ctx.Plain) (htrim : Text.trim s = s) (hne : s ≠ "") :
    TextRule.parse { nonEmpty } (.text s) ctx = .ok s := by
  rw [← htrim] at hne
  rw [parse_bare_eq_trim h hne, htrim]

/-- Such a rule gives out the text without the blanks around it. -/
theorem eq_trim_of_parse_bare {nonEmpty : Value} {t : String}
    (h : TextRule.parse { nonEmpty } (.text s) ctx = .ok t) : t = Text.trim s := by
  obtain ⟨expected, -, -, hread, -, -⟩ := parse_eq_ok_iff.mp h
  have htaken : taken { nonEmpty } (.text s) = .text (Text.trim s) := rfl
  rw [htaken] at hread
  cases hread
  rfl

end TextRule

/-! ## Urls, mail addresses and colours -/

section Links

variable {v : Value} {ctx : Context} {s link : String}

theorem UrlRule.parse_settles {rule : UrlRule} (h : rule.parse v ctx = .ok s) :
    rule.parse (.text s) ctx = .ok s := by
  unfold UrlRule.parse at h
  split at h
  · rename_i hempty
    cases h
    simp only [Bool.and_eq_true] at hempty
    simp [UrlRule.parse, hempty.1, Value.isEmptyText]
  · obtain ⟨url, hurl, h⟩ := bind_eq_ok.mp h
    cases hsplit : splitUrl? url.toList with
    | none => simp [hsplit] at h
    | some parts =>
      rw [hsplit] at h
      obtain ⟨hparts, h⟩ := check_bind_eq_ok.mp h
      cases h
      have hne : s ≠ "" := by rintro rfl; cases hsplit
      simp only [UrlRule.parse, Value.isEmptyText, String.isEmpty_eq_false_iff.mpr hne,
        Bool.and_false, Bool.false_eq_true, if_false, TextRule.parse_settles hurl,
        Outcome.ok_bind, hsplit]
      rw [hparts]
      rfl

theorem EmailRule.parse_settles {rule : EmailRule} (h : rule.parse v ctx = .ok s) :
    rule.parse (.text s) ctx = .ok s := by
  unfold EmailRule.parse at h
  split at h
  · rename_i hempty
    cases h
    simp only [Bool.and_eq_true] at hempty
    simp [EmailRule.parse, hempty.1, Value.isEmptyText]
  · obtain ⟨email, hemail, h⟩ := bind_eq_ok.mp h
    cases hsplit : splitEmail? email.toList with
    | none => simp [hsplit] at h
    | some domain =>
      rw [hsplit] at h
      obtain ⟨hpart, h⟩ := check_bind_eq_ok.mp h
      cases h
      have hne : s ≠ "" := by rintro rfl; cases hsplit
      simp only [EmailRule.parse, Value.isEmptyText, String.isEmpty_eq_false_iff.mpr hne,
        Bool.and_false, Bool.false_eq_true, if_false, TextRule.parse_settles hemail,
        Outcome.ok_bind, hsplit]
      rw [hpart]
      rfl

theorem isEmptyText_of_trim (hne : Text.trim s ≠ "") : (Value.text s).isEmptyText = false := by
  refine String.isEmpty_eq_false_iff.mpr ?_
  rintro rfl
  exact hne rfl

/-- A rule for urls that asks for no length and no pattern accepts a text that is not blank by its
parts. -/
theorem UrlRule.parse_bare_eq_ok_iff {nonEmpty : Value} {domain protocol protocols : Option Value}
    (hctx : ctx.Plain) (hne : Text.trim s ≠ "") :
    UrlRule.parse { text := { nonEmpty }, domain, protocol, protocols } (.text s) ctx = .ok link ↔
      link = Text.trim s ∧ ∃ parts, splitUrl? (Text.trim s).toList = some parts ∧
        UrlRule.checkParts { text := { nonEmpty }, domain, protocol, protocols } ctx
          (ctx.expected "url") parts.1 parts.2 = .ok () := by
  have htext : TextRule.parse { nonEmpty } (.text s) (ctx.overriding (ctx.expected "url")) =
      .ok (Text.trim s) :=
    TextRule.parse_bare_eq_trim (hctx.overriding_expected "url") hne
  simp only [UrlRule.parse, isEmptyText_of_trim hne, Bool.and_false, Bool.false_eq_true, if_false,
    htext, Outcome.ok_bind]
  cases splitUrl? (Text.trim s).toList with
  | none => simp
  | some parts =>
    constructor
    · intro h
      obtain ⟨hparts, h⟩ := check_bind_eq_ok.mp h
      cases h
      exact ⟨rfl, _, rfl, hparts⟩
    · rintro ⟨rfl, parts, hsplit, hparts⟩
      cases hsplit
      exact check_bind_eq_ok.mpr ⟨hparts, rfl⟩

/-- A rule for mail addresses that asks for no length and no pattern accepts a text that is not
blank by its domain. -/
theorem EmailRule.parse_bare_eq_ok_iff {nonEmpty : Value} {domain : Option Value}
    (hctx : ctx.Plain) (hne : Text.trim s ≠ "") :
    EmailRule.parse { text := { nonEmpty }, domain } (.text s) ctx = .ok link ↔
      link = Text.trim s ∧ ∃ rest, splitEmail? (Text.trim s).toList = some rest ∧
        checkPart ctx (ctx.expected "email") "domain" domain rest = .ok () := by
  have htext : TextRule.parse { nonEmpty } (.text s) (ctx.overriding (ctx.expected "email")) =
      .ok (Text.trim s) :=
    TextRule.parse_bare_eq_trim (hctx.overriding_expected "email") hne
  simp only [EmailRule.parse, isEmptyText_of_trim hne, Bool.and_false, Bool.false_eq_true, if_false,
    htext, Outcome.ok_bind]
  cases splitEmail? (Text.trim s).toList with
  | none => simp
  | some rest =>
    constructor
    · intro h
      obtain ⟨hpart, h⟩ := check_bind_eq_ok.mp h
      cases h
      exact ⟨rfl, _, rfl, hpart⟩
    · rintro ⟨rfl, rest, hsplit, hpart⟩
      cases hsplit
      exact check_bind_eq_ok.mpr ⟨hpart, rfl⟩

/-- A colour comes out as it has come in. -/
theorem eq_of_parseColor_eq_ok (h : parseColor v ctx = .ok s) : v = .text s := by
  unfold parseColor at h
  dsimp only at h
  split at h
  · split at h
    · simp at h
    · split at h
      · cases h
        rfl
      · simp at h
  · simp at h

theorem parseColor_settles (h : parseColor v ctx = .ok s) : parseColor (.text s) ctx = .ok s :=
  eq_of_parseColor_eq_ok h ▸ h

end Links

end Intake
