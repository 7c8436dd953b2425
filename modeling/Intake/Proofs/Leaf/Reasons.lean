import Intake.Proofs.Schema.Reliable

/-!
# Leaves give reasons

What a rule for single values rejects, it rejects with a reason: with what was found instead, which
has a name if the classes of values have one, or with what should have been found.

## Main statements

* `TextRule.voiced_parse`, `NumberRule.voiced_parse` and the others — one for each kind of rule.
-/

namespace Intake

open Outcome (bind_eq_ok rejectsWith_ok rejectsWith_faulted rejectsWith_ofFault ofFault_eq_ok)
open Rejection (Voiced)

variable {ctx : Context} {v type : Value}

/-! ## Text -/

namespace TextRule

variable {rule : TextRule}

theorem voiced_read (hv : v.Named) : (read ctx type v).RejectsWith Voiced := by
  unfold read
  split
  · exact rejectsWith_ok _
  · split
    · exact ctx.voiced_rejectKind hv
    · exact rejectsWith_ofFault _
  · exact ctx.voiced_rejectKind hv

theorem voiced_checkPattern {pattern : Option Value} {s : String} :
    (checkPattern ctx type pattern s).RejectsWith Voiced := by
  refine voiced_checkGiven fun pattern => ?_
  split
  · refine (rejectsWith_ofFault _).bind fun found _ => ctx.voiced_rejectIf ?_
    rintro _ ⟨⟩
    exact append_ne_got (by decide) _
  · exact rejectsWith_faulted _

theorem named_taken (hv : v.Named) : (rule.taken v).Named := by
  rw [taken]
  split
  · cases v with
    | text s =>
      exact .node (by simp [Value.trimmed, Value.className])
        (by simp [Value.trimmed, Value.parts])
    | _ => exact hv
  · exact hv

theorem voiced_parse (hv : v.Named) : (rule.parse v ctx).RejectsWith Voiced := by
  rw [parse_eq]
  refine (rejectsWith_ofFault _).bind fun type _ => ?_
  split
  · exact ctx.voiced_reject (by simp)
  · exact (voiced_read (named_taken hv)).bind fun s _ => voiced_checkLength.bind fun _ _ =>
      voiced_checkPattern.bind fun _ _ => rejectsWith_ok s

end TextRule

/-! ## Urls, mail addresses and colours -/

theorem voiced_checkPart {part : String} (hpart : 4 < part.length) {asked : Option Value}
    {found : List Char} : (checkPart ctx type part asked found).RejectsWith Voiced := by
  refine voiced_checkGiven fun asked => ctx.voiced_rejectIf fun text htext => ?_
  obtain ⟨json, -, rfl⟩ := Outcome.map_eq_ok.mp htext
  rw [String.append_assoc]
  exact append_ne_got hpart _

theorem UrlRule.voiced_checkParts {rule : UrlRule} {protocol domain : List Char} :
    (rule.checkParts ctx type protocol domain).RejectsWith Voiced := by
  refine (voiced_checkGiven fun protocols => ?_).bind fun _ _ =>
    (voiced_checkPart (by decide)).bind fun _ _ => voiced_checkPart (by decide)
  refine (rejectsWith_ofFault _).bind fun isListed _ => ctx.voiced_rejectIf fun text htext => ?_
  obtain ⟨members, -, htext⟩ := bind_eq_ok.mp htext
  obtain ⟨json, -, ⟨⟩⟩ := bind_eq_ok.mp htext
  exact append_ne_got (by decide) _

theorem UrlRule.voiced_parse {rule : UrlRule} (hv : v.Named) :
    (rule.parse v ctx).RejectsWith Voiced := by
  rw [UrlRule.parse]
  split
  · exact rejectsWith_ok ""
  · refine (TextRule.voiced_parse hv).bind fun url _ => ?_
    split
    · exact ctx.voiced_reject (by simp)
    · exact UrlRule.voiced_checkParts.bind fun _ _ => rejectsWith_ok url

theorem EmailRule.voiced_parse {rule : EmailRule} (hv : v.Named) :
    (rule.parse v ctx).RejectsWith Voiced := by
  rw [EmailRule.parse]
  split
  · exact rejectsWith_ok ""
  · refine (TextRule.voiced_parse hv).bind fun email _ => ?_
    split
    · exact ctx.voiced_reject (by simp)
    · exact (voiced_checkPart (by decide)).bind fun _ _ => rejectsWith_ok email

theorem voiced_parseColor (hv : v.Named) : (parseColor v ctx).RejectsWith Voiced := by
  unfold parseColor
  dsimp only
  split
  · split
    · exact ctx.voiced_rejectKind hv
    · split
      · exact rejectsWith_ok _
      · exact ctx.voiced_reject (by simp)
  · exact ctx.voiced_rejectKind hv

/-! ## Numbers -/

theorem Numeric.ReadingError.reason_ne (error : ReadingError) : error.reason ≠ "got " := by
  unfold reason
  split
  · exact append_ne_got (by decide : 4 < "got string".length) ""
  · rw [String.append_assoc]
    exact append_ne_got (by decide) _
  · unfold DigitLimit.message
    split
    · rw [String.append_assoc]
      exact append_ne_got (by rw [String.length_ofList]; decide) _
    · exact append_ne_got (by rw [String.length_ofList]; decide) _

namespace NumberRule

variable {rule : NumberRule} {active : String}

theorem voiced_readText {s : String} (hv : (Value.text s).Named) :
    (rule.readText active ctx type s).RejectsWith Voiced := by
  rw [readText]
  split
  · refine (rejectsWith_ofFault _).bind fun separator _ => ?_
    split
    · exact rejectsWith_ok _
    · exact ctx.voiced_reject (Numeric.ReadingError.reason_ne _)
  · split
    · exact rejectsWith_ok _
    · exact ctx.voiced_rejectKind hv
    · exact rejectsWith_faulted _

theorem voiced_read (hv : v.Named) : (rule.read active ctx type v).RejectsWith Voiced := by
  unfold read
  split
  · split
    · exact ctx.voiced_rejectKind hv
    · exact rejectsWith_ok _
  · split
    · exact ctx.voiced_rejectKind hv
    · exact voiced_readText hv
  · exact ctx.voiced_rejectKind hv

theorem voiced_checkBounds {n : Numeric.Number} :
    (rule.checkBounds ctx type n).RejectsWith Voiced := by
  have hreason : ∀ (name : String) bound text, boundReason name bound = .ok text →
      text ≠ "got " := fun _ _ _ => shown_ne_got (by decide)
  exact (voiced_checkBound (hreason "min")).bind fun _ _ => voiced_checkBound (hreason "max")

theorem voiced_parse (hv : v.Named) : (rule.parse active v ctx).RejectsWith Voiced :=
  (voiced_read hv).bind fun _ _ => voiced_checkBounds.bind fun _ _ => rejectsWith_ok _

theorem voiced_parseInt (hv : v.Named) : (rule.parseInt active v ctx).RejectsWith Voiced := by
  refine (voiced_parse hv).bind fun n _ => ?_
  split
  · exact rejectsWith_ok _
  · split
    · exact rejectsWith_ok _
    · exact ctx.voiced_reject (by simp)

end NumberRule

theorem FloatRule.voiced_parse {rule : FloatRule} {active : String} (hv : v.Named) :
    (rule.parse active v ctx).RejectsWith Voiced := by
  refine (NumberRule.voiced_parse hv).bind fun n _ => ?_
  split
  · exact rejectsWith_faulted _
  · exact rejectsWith_ofFault _

/-! ## Truth values and fixed values -/

theorem voiced_parseBoolean {asked : Option Bool} (hv : v.Named) :
    (parseBoolean asked v ctx).RejectsWith Voiced := by
  unfold parseBoolean
  split
  · exact rejectsWith_ok _
  · split
    · exact rejectsWith_ok _
    · exact ctx.voiced_rejectKind hv

theorem voiced_parseLiteral {value : Value} (hv : v.Named) :
    (parseLiteral value v ctx).RejectsWith Voiced := by
  unfold parseLiteral
  split
  · exact rejectsWith_ok value
  · exact (rejectsWith_ofFault _).bind fun _ _ => ctx.voiced_rejectKind hv

/-- There are words for every input of an enumeration. -/
theorem Value.describeExactly_ne_empty {s : String} (hv : v.className ≠ "")
    (h : v.describeExactly = .ok s) : s ≠ "" := by
  unfold describeExactly at h
  split at h
  · split at h
    · cases h
      exact describe_ne_empty hv
    · rename_i n hnan
      cases hwrite : n.write with
      | error limit => simp [hwrite] at h
      | ok t =>
        rw [hwrite] at h
        cases h
        exact Numeric.Number.ne_empty_of_write hwrite
  · cases h
    split
    · decide
    · exact Value.quoteJson_ne_empty _
  · cases h
    exact describe_ne_empty hv

theorem voiced_parseMember {members : List Value} (hv : v.Named) :
    (parseMember members v ctx).RejectsWith Voiced := by
  unfold parseMember
  split
  · exact rejectsWith_ok _
  · refine (rejectsWith_ofFault _).bind fun type _ =>
      (rejectsWith_ofFault _).bind fun got hgot => ?_
    have hne := Value.describeExactly_ne_empty hv.className_ne_empty (ofFault_eq_ok.mp hgot)
    exact ctx.voiced_rejectAs (got_ne hne)

/-! ## Dates and times without bounds -/

theorem describeDate_ne_empty (hv : v.className ≠ "") : describeDate v ≠ "" := by
  unfold describeDate
  split
  · split
    · decide
    · simp [String.ext_iff]
  · exact Value.describe_ne_empty hv

theorem voiced_rejectDate {α : Type} (hv : v.Named) :
    (ctx.reject type ("got " ++ describeDate v) : Outcome α).RejectsWith Voiced :=
  ctx.voiced_reject (got_ne (describeDate_ne_empty hv.className_ne_empty))

variable {zone : Calendar.Zone}

theorem voiced_readDate (hv : v.Named) : (readDate zone v ctx).RejectsWith Voiced := by
  unfold readDate
  split
  · exact (rejectsWith_ofFault _).bind fun _ _ => rejectsWith_ok _
  · exact voiced_rejectDate hv

/-- Without bounds there is nothing to reject. -/
theorem voiced_checkRange_unbounded {α : Type} {name : String}
    {readBound : Value → Context → Outcome α} {below above : α → α → Except Fault Bool}
    {a : α} : (checkRange ctx type name none none readBound below above a).RejectsWith Voiced :=
  (rejectsWith_ofFault _).bind fun _ _ => rejectsWith_ok ()

theorem DateRule.voiced_parse (hv : v.Named) :
    (DateRule.parse zone {} v ctx).RejectsWith Voiced :=
  (voiced_readDate hv).bind fun _ _ => voiced_checkRange_unbounded.bind fun _ _ => rejectsWith_ok _

section Spans

variable {nonEmpty : Value} {precision : Calendar.Precision}

theorem voiced_trimInput (hv : v.Named) : (trimInput nonEmpty v ctx).RejectsWith Voiced := by
  unfold trimInput
  split
  · exact (TextRule.voiced_parse hv).map _
  · exact rejectsWith_ok v

theorem named_of_trimInput {w : Value} (hv : v.Named) (h : trimInput nonEmpty v ctx = .ok w) :
    w.Named := by
  unfold trimInput at h
  split at h
  · obtain ⟨s, -, rfl⟩ := Outcome.map_eq_ok.mp h
    exact .node (by simp [Value.className]) (by simp [Value.parts])
  · cases h
    exact hv

theorem voiced_readDateText (hv : v.Named) :
    (readDateText zone nonEmpty v ctx).RejectsWith Voiced :=
  (voiced_trimInput hv).bind fun _ hw => (voiced_readDate (named_of_trimInput hv hw)).bind
    fun _ _ => rejectsWith_ok _

theorem voiced_readStampText (hv : v.Named) :
    (readStampText zone precision nonEmpty v ctx).RejectsWith Voiced :=
  (voiced_trimInput hv).bind fun _ hw => (voiced_readDate (named_of_trimInput hv hw)).bind
    fun _ _ => rejectsWith_ok _

theorem voiced_writeClockText {clock : Calendar.ClockText} :
    (writeClockText precision ctx type clock).RejectsWith Voiced := by
  unfold writeClockText
  split
  · exact ctx.voiced_reject (by simp)
  · split
    · exact ctx.voiced_reject (by simp)
    · split
      · exact ctx.voiced_reject (by simp)
      · exact rejectsWith_ok _

theorem voiced_readTimeText (hv : v.Named) :
    (readTimeText zone precision nonEmpty v ctx).RejectsWith Voiced := by
  have hmoment : ∀ {inner : Context}, (do
      let m ← readDate zone v inner
      return Calendar.writeTime m.time precision : Outcome String).RejectsWith Voiced :=
    (voiced_readDate hv).bind fun _ _ => rejectsWith_ok _
  unfold readTimeText
  dsimp only
  split
  · split
    · exact hmoment
    · refine (TextRule.voiced_parse hv).bind fun trimmed _ => ?_
      split
      · exact voiced_rejectDate hv
      · exact voiced_writeClockText
  · exact hmoment

/-- A rule without bounds gives the reasons of what it reads by. -/
theorem SpanRule.voiced_parse {name : String} {read : Value → Value → Context → Outcome String}
    (hread : (read nonEmpty v ctx).RejectsWith Voiced) :
    (SpanRule.parse { nonEmpty } name read v ctx).RejectsWith Voiced := by
  unfold SpanRule.parse
  split
  · exact rejectsWith_ok ""
  · exact hread.bind fun _ _ => voiced_checkRange_unbounded.bind fun _ _ => rejectsWith_ok _

end Spans

end Intake
