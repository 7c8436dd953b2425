import Intake.Proofs.Leaf.Concord
import Intake.Proofs.Leaf.FloatBounds

/-!
# Blanks around texts

A rule that trims texts finds the same in a text with blanks around it as in the text itself.  But
the rules that let the empty text pass look for it before they trim, so that a text of blanks alone
is not the empty text to them.

## Main definitions

* `Leaf.Trims` — the rules that trim.
* `Leaf.PassesEmpty` — the rules that let the empty text pass.

## Main statements

* `Leaf.parse_trimmed_iff` — a text and the trimmed one are treated alike, but for a text of blanks
  by a rule that lets the empty text pass.
-/

namespace Intake

open Outcome (bind_eq_ok map_eq_ok check_bind_eq_ok)
open Numeric (Number)
open Calendar (readMoment?)

/-! ## Rules for numbers -/

section Numbers

variable {s : String} {ctx : Context} {type : Value} {n : Number}

theorem Numeric.readReadable_trim (separator : Numeric.Separator) (s : String) :
    Numeric.readReadable separator (Text.trim s) = Numeric.readReadable separator s := by
  have hkept : (Text.trimChars s.toList).filter (fun c => !Text.isBlank c && c ≠ '-') =
      s.toList.filter (fun c => !Text.isBlank c && c ≠ '-') :=
    Text.filter_trimChars (fun c hc => (by simpa using hc : _ ∧ _).1) _
  unfold Numeric.readReadable Numeric.ungroup
  rw [Text.toList_trim, hkept]

theorem Numeric.readNumber_trim (s : String) :
    Numeric.readNumber (Text.trim s) = Numeric.readNumber s := by
  rw [Numeric.readNumber, Numeric.readNumber, Text.toList_trim, Numeric.readNumberChars,
    Numeric.readNumberChars, Text.trimChars_trimChars]

namespace NumberRule

variable {rule : NumberRule} {active : String}

theorem read_trim_eq_ok_iff : rule.read active ctx type (.text (Text.trim s)) = .ok n ↔
    rule.read active ctx type (.text s) = .ok n := by
  simp only [read, Text.trim_trim]
  by_cases hblank : (Text.trim s).isEmpty = true
  · simp [hblank]
  · simp only [hblank, Bool.false_eq_true, if_false, readText, Numeric.readReadable_trim,
      Numeric.readNumber_trim]
    split
    · rfl
    · split <;> simp

theorem parse_trim_eq_ok_iff : rule.parse active (.text (Text.trim s)) ctx = .ok n ↔
    rule.parse active (.text s) ctx = .ok n := by
  simp only [parse_eq_ok_iff, read_trim_eq_ok_iff]

theorem parseInt_trim_eq_ok_iff {k : Int} :
    rule.parseInt active (.text (Text.trim s)) ctx = .ok k ↔
      rule.parseInt active (.text s) ctx = .ok k := by
  simp only [parseInt_eq_ok_iff, parse_trim_eq_ok_iff]

end NumberRule

end Numbers

/-! ## Rules for text -/

section Texts

variable {s : String} {ctx : Context} {w : String}

theorem TextRule.parse_trim {rule : TextRule} (htrim : rule.trim.isTruthy = true) :
    rule.parse (.text (Text.trim s)) ctx = rule.parse (.text s) ctx := by
  rw [parse_eq, parse_eq, taken, taken, if_pos htrim, if_pos htrim, Value.trimmed, Value.trimmed,
    Text.trim_trim]

/-- The empty text passes, unless something is asked for; all else is left to `rest`. -/
def passEmpty (nonEmpty : Value) (rest : Value → Outcome String) (v : Value) : Outcome String :=
  if !nonEmpty.isTruthy && v.isEmptyText then .ok "" else rest v

/-- If `rest` does not care for blanks around a text, all that matters is whether a text of blanks
is trimmed to one that passes. -/
theorem passEmpty_trim_iff {nonEmpty : Value} {rest : Value → Outcome String}
    (hrest : ∀ w, rest (.text (Text.trim s)) = .ok w ↔ rest (.text s) = .ok w)
    (hblank : Text.trim s = "" → nonEmpty.isTruthy = false → ∀ w, rest (.text s) ≠ .ok w) :
    (∀ w, passEmpty nonEmpty rest (.text s) = .ok w ↔
      passEmpty nonEmpty rest (.text (Text.trim s)) = .ok w) ↔
        ¬ (nonEmpty.isTruthy = false ∧ Text.trim s = "" ∧ s ≠ "") := by
  have hpass : ∀ t : String, (!nonEmpty.isTruthy && (Value.text t).isEmptyText) = true ↔
      nonEmpty.isTruthy = false ∧ t = "" := by
    intro t
    simp [Value.isEmptyText]
  constructor
  · rintro h ⟨hasked, hempty, hne⟩
    have := (h "").mpr (if_pos ((hpass _).mpr ⟨hasked, hempty⟩))
    rw [passEmpty, if_neg fun hs => hne ((hpass s).mp hs).2] at this
    exact hblank hempty hasked "" this
  · intro h w
    by_cases hs : nonEmpty.isTruthy = false ∧ s = ""
    · rw [hs.2]
      rfl
    · have htrim : ¬ (nonEmpty.isTruthy = false ∧ Text.trim s = "") := by
        rintro ⟨hasked, hempty⟩
        exact h ⟨hasked, hempty, fun hs' => hs ⟨hasked, hs'⟩⟩
      rw [passEmpty, passEmpty, if_neg fun hpassed => hs ((hpass s).mp hpassed),
        if_neg fun hpassed => htrim ((hpass _).mp hpassed)]
      exact (hrest w).symm

/-- A rule that trims gives a text of blanks out as the empty text, if at all. -/
theorem TextRule.eq_empty_of_parse {rule : TextRule} (htrim : rule.trim.isTruthy = true)
    (hempty : Text.trim s = "") (h : rule.parse (.text s) ctx = .ok w) : w = "" := by
  obtain ⟨expected, -, -, hread, -, -⟩ := parse_eq_ok_iff.mp h
  rw [taken, if_pos htrim, Value.trimmed, hempty] at hread
  cases hread
  rfl

/-- What a rule for urls makes of a text that it does not let pass. -/
def UrlRule.readParts (rule : UrlRule) (ctx : Context) (v : Value) : Outcome String := do
  let expected := ctx.expected "url"
  let url ← rule.text.parse v (ctx.overriding expected)
  match splitUrl? url.toList with
  | none => ctx.reject expected "should contains protocol and domain/host"
  | some (protocol, domain) =>
    rule.checkParts ctx expected protocol domain
    return url

theorem UrlRule.parse_eq {rule : UrlRule} {v : Value} :
    rule.parse v ctx = passEmpty rule.text.nonEmpty (rule.readParts ctx) v := rfl

theorem UrlRule.parse_trim_iff {rule : UrlRule} (htrim : rule.text.trim.isTruthy = true) :
    (∀ w, rule.parse (.text s) ctx = .ok w ↔ rule.parse (.text (Text.trim s)) ctx = .ok w) ↔
      ¬ (rule.text.nonEmpty.isTruthy = false ∧ Text.trim s = "" ∧ s ≠ "") := by
  simp only [UrlRule.parse_eq]
  refine passEmpty_trim_iff ?_ ?_
  · intro w
    rw [readParts, readParts, TextRule.parse_trim htrim]
  · intro hempty _ w h
    obtain ⟨url, hurl, h⟩ := bind_eq_ok.mp h
    obtain rfl := TextRule.eq_empty_of_parse htrim hempty hurl
    exact absurd h (ctx.reject_ne_ok _ _ _ _)

/-- What a rule for mail addresses makes of a text that it does not let pass. -/
def EmailRule.readParts (rule : EmailRule) (ctx : Context) (v : Value) : Outcome String := do
  let expected := ctx.expected "email"
  let email ← rule.text.parse v (ctx.overriding expected)
  match splitEmail? email.toList with
  | none => ctx.reject expected "should contains \"@\" and domain"
  | some domain =>
    checkPart ctx expected "domain" rule.domain domain
    return email

theorem EmailRule.parse_eq {rule : EmailRule} {v : Value} :
    rule.parse v ctx = passEmpty rule.text.nonEmpty (rule.readParts ctx) v := rfl

theorem EmailRule.parse_trim_iff {rule : EmailRule} (htrim : rule.text.trim.isTruthy = true) :
    (∀ w, rule.parse (.text s) ctx = .ok w ↔ rule.parse (.text (Text.trim s)) ctx = .ok w) ↔
      ¬ (rule.text.nonEmpty.isTruthy = false ∧ Text.trim s = "" ∧ s ≠ "") := by
  simp only [EmailRule.parse_eq]
  refine passEmpty_trim_iff ?_ ?_
  · intro w
    rw [readParts, readParts, TextRule.parse_trim htrim]
  · intro hempty _ w h
    obtain ⟨email, hemail, h⟩ := bind_eq_ok.mp h
    obtain rfl := TextRule.eq_empty_of_parse htrim hempty hemail
    exact absurd h (ctx.reject_ne_ok _ _ _ _)

end Texts

/-! ## Rules for dates and times -/

section Spans

variable {zone : Calendar.Zone} {s w : String} {nonEmpty : Value} {ctx : Context} {kind : SpanKind}

theorem readMoment?_trim (s : String) : readMoment? (Text.trim s) = readMoment? s := by
  rw [readMoment?, readMoment?, Text.toList_trim, Text.trimChars_trimChars]

theorem timeOfDay?_trim (zone : Calendar.Zone) (s : String) :
    timeOfDay? zone (.text (Text.trim s)) = timeOfDay? zone (.text s) := by
  have hmark : Text.isBlank 'T' = false := by decide
  rw [timeOfDay?, timeOfDay?, Text.toList_trim, Text.contains_trimChars hmark,
    Text.trimChars_trimChars, readMoment?_trim]

theorem trimInput_trim :
    trimInput nonEmpty (.text (Text.trim s)) ctx = trimInput nonEmpty (.text s) ctx := by
  rw [trimInput, trimInput, TextRule.parse_trim rfl]

theorem readTimeText_eq_ok_iff {precision : Calendar.Precision} {v : Value} (hctx : ctx.Plain) :
    readTimeText zone precision nonEmpty v ctx = .ok w ↔
      ∃ t, timeOfDay? zone v = some t ∧ w = Calendar.writeTime t precision := by
  constructor
  · exact SpanKind.exists_time_of_readTimeText hctx
  · rintro ⟨t, ht, rfl⟩
    exact readTimeText_of_timeOfDay? hctx ht

/-- A rule for dates or times reads the same from a text and from the trimmed one. -/
theorem SpanKind.read_trim_eq_ok_iff (hctx : ctx.Plain) :
    kind.read zone nonEmpty (.text (Text.trim s)) ctx = .ok w ↔
      kind.read zone nonEmpty (.text s) ctx = .ok w := by
  cases kind with
  | date => rw [read, readDateText, readDateText, trimInput_trim]
  | time precision =>
    rw [read, readTimeText_eq_ok_iff hctx, readTimeText_eq_ok_iff hctx, timeOfDay?_trim]
  | stamp precision => rw [read, readStampText, readStampText, trimInput_trim]

/-- A text of blanks shows nothing. -/
theorem SpanKind.units?_of_blank (hempty : Text.trim s = "") :
    kind.units? zone (.text s) = none := by
  have hmoment : toMoment? zone (.text s) = none := by
    rw [toMoment?, ← readMoment?_trim, hempty]
    rfl
  cases kind with
  | date => rw [units?, hmoment, Option.map_none]
  | time precision =>
    rw [units?, ← timeOfDay?_trim, hempty]
    rfl
  | stamp precision => rw [units?, hmoment, Option.map_none]

/-- What a rule for dates or times makes of a text that it does not let pass. -/
def SpanRule.readInRange (rule : SpanRule) (type : String)
    (read : Value → Value → Context → Outcome String) (ctx : Context) (v : Value) :
    Outcome String := do
  let text ← read rule.nonEmpty v ctx
  let readBound := fun bound boundCtx =>
    if bound.isEmptyText then .ok "" else read (.bool false) bound boundCtx
  checkRange ctx (ctx.expected type) type rule.min rule.max readBound textBelow textAbove text
  return text

theorem SpanRule.parse_eq {rule : SpanRule} {type : String}
    {read : Value → Value → Context → Outcome String} {v : Value} :
    rule.parse type read v ctx = passEmpty rule.nonEmpty (rule.readInRange type read ctx) v := rfl

theorem SpanRule.parse_trim_iff {rule : SpanRule} (hctx : ctx.Plain) :
    (∀ w, rule.parse kind.type (kind.read zone) (.text s) ctx = .ok w ↔
      rule.parse kind.type (kind.read zone) (.text (Text.trim s)) ctx = .ok w) ↔
        ¬ (rule.nonEmpty.isTruthy = false ∧ Text.trim s = "" ∧ s ≠ "") := by
  simp only [SpanRule.parse_eq]
  refine passEmpty_trim_iff ?_ ?_
  · intro w
    simp only [readInRange, bind_eq_ok, SpanKind.read_trim_eq_ok_iff hctx]
  · intro hempty _ w h
    obtain ⟨text, htext, -⟩ := bind_eq_ok.mp h
    obtain ⟨xs, hxs, -⟩ := SpanKind.exists_shows_of_read hctx htext
    rw [SpanKind.units?_of_blank hempty] at hxs
    cases hxs

end Spans

/-! ## Leaves -/

namespace Leaf

variable {leaf : Leaf} {setting : Setting} {s : String} {ctx : Context}

/-- The rules that leave the blanks around a text out. -/
def Trims : Leaf → Prop
  | .string rule => rule.trim.isTruthy = true
  | .url rule => rule.text.trim.isTruthy = true
  | .email rule => rule.text.trim.isTruthy = true
  | .number _ | .float _ | .int _ | .id | .date _ => True
  | .dateString _ | .timeString .. | .timestamp .. => True
  | _ => False

/-- The rules that let the empty text pass before they look at a text. -/
def PassesEmpty : Leaf → Prop
  | .url rule => rule.text.nonEmpty.isTruthy = false
  | .email rule => rule.text.nonEmpty.isTruthy = false
  | .dateString rule | .timeString rule _ | .timestamp rule _ => rule.nonEmpty.isTruthy = false
  | _ => False

/-- A rule that trims treats a text and the trimmed one alike, but for a text of blanks if it lets
the empty text pass. -/
theorem parse_trimmed_iff (hleaf : leaf.Trims) (hctx : ctx.Plain) :
    (∀ w, leaf.parse setting (.text s) ctx = .ok w ↔
      leaf.parse setting (.text (Text.trim s)) ctx = .ok w) ↔
        ¬ (leaf.PassesEmpty ∧ Text.trim s = "" ∧ s ≠ "") := by
  have halike : (∀ w, leaf.parse setting (.text s) ctx = .ok w ↔
      leaf.parse setting (.text (Text.trim s)) ctx = .ok w) → ¬ leaf.PassesEmpty →
      ((∀ w, leaf.parse setting (.text s) ctx = .ok w ↔
        leaf.parse setting (.text (Text.trim s)) ctx = .ok w) ↔
          ¬ (leaf.PassesEmpty ∧ Text.trim s = "" ∧ s ≠ "")) :=
    fun h hpass => ⟨fun _ hexcept => hpass hexcept.1, fun _ => h⟩
  have htexts : ∀ f : String → Outcome String,
      (∀ w, Value.text <$> f s = .ok w ↔ Value.text <$> f (Text.trim s) = .ok w) ↔
        ∀ w, f s = .ok w ↔ f (Text.trim s) = .ok w := by
    intro f
    simp only [map_eq_ok]
    constructor
    · intro h w
      have := h (.text w)
      simpa using this
    · intro h w
      simp only [h]
  cases leaf with
  | string rule =>
    refine halike (fun w => ?_) not_false
    rw [parse, parse, TextRule.parse_trim hleaf]
  | url rule =>
    exact (htexts fun t => rule.parse (.text t) ctx).trans (UrlRule.parse_trim_iff hleaf)
  | email rule =>
    exact (htexts fun t => rule.parse (.text t) ctx).trans (EmailRule.parse_trim_iff hleaf)
  | number rule =>
    refine halike (fun w => ?_) not_false
    simp only [parse, map_eq_ok, NumberRule.parse_trim_eq_ok_iff]
  | float rule =>
    refine halike (fun w => ?_) not_false
    simp only [parse_float_eq_ok_iff, NumberRule.parse_trim_eq_ok_iff]
  | int rule =>
    refine halike (fun w => ?_) not_false
    simp only [parse, map_eq_ok, NumberRule.parseInt_trim_eq_ok_iff]
  | id =>
    refine halike (fun w => ?_) not_false
    simp only [parse, parseId, map_eq_ok, NumberRule.parseInt_trim_eq_ok_iff]
  | date rule =>
    refine halike (fun w => ?_) not_false
    have hread : ∀ m, readDate setting.zone (.text (Text.trim s)) ctx = .ok m ↔
        readDate setting.zone (.text s) ctx = .ok m := by
      intro m
      rw [readDate_eq_ok_iff hctx, readDate_eq_ok_iff hctx, toMoment?, toMoment?,
        readMoment?_trim]
    simp only [parse, DateRule.parse, map_eq_ok, bind_eq_ok, hread]
  | dateString rule =>
    exact (htexts fun t => rule.parseDate setting.zone (.text t) ctx).trans
      (@SpanRule.parse_trim_iff setting.zone s ctx .date rule hctx)
  | timeString rule precision =>
    exact (htexts fun t => rule.parseTime setting.zone precision (.text t) ctx).trans
      (@SpanRule.parse_trim_iff setting.zone s ctx (.time precision) rule hctx)
  | timestamp rule precision =>
    exact (htexts fun t => rule.parseStamp setting.zone precision (.text t) ctx).trans
      (@SpanRule.parse_trim_iff setting.zone s ctx (.stamp precision) rule hctx)
  | color | boolean | checkbox | literal | values => exact hleaf.elim

theorem parse_trimmed_iff_paddedStamp :
    (timestamp {} .second).parse "en" (.text "\t2024-02-29 08:00 \n") .root =
      .ok (.text "2024-02-29 08:00:00") := by
  have hexcept : ¬ ((timestamp {} .second).PassesEmpty ∧
      Text.trim "\t2024-02-29 08:00 \n" = "" ∧ "\t2024-02-29 08:00 \n" ≠ "") :=
    fun h => absurd h.2.1 (by decide)
  have halike := (@parse_trimmed_iff (timestamp {} .second) "en" "\t2024-02-29 08:00 \n" .root
    trivial Context.plain_root).mpr hexcept
  exact (halike (.text "2024-02-29 08:00:00")).mpr (by rfl)

theorem not_forall_parse_trimmed_iff :
    ¬ ∀ (leaf : Leaf) (s : String), leaf.Trims → ∀ w,
      leaf.parse "en" (.text s) .root = .ok w ↔
        leaf.parse "en" (.text (Text.trim s)) .root = .ok w := by
  intro h
  have hpassed : (timestamp {} .second).parse "en" (.text (Text.trim " ")) .root =
      .ok (.text "") := by rfl
  have := (h (timestamp {} .second) " " trivial (.text "")).mpr hpassed
  cases this

end Leaf

end Intake
