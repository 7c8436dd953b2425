import Intake.Leaf
import Intake.Proofs.Alike
import Intake.Proofs.Rule.Temporal

/-!
# Rules in two contexts

No rule for single values looks at its context but to put a rejection into words.  So every step of
it has alike outcomes in two contexts, and so has the whole.

## Main statements

* `TextRule.contextFree_parse`, `NumberRule.contextFree_parse`, `DateRule.contextFree_parse`,
  `SpanRule.contextFree_parse` — the rules.
* `Leaf.contextFree_parse` — all leaves.
-/

namespace Intake

open Outcome (Alike)
open Calendar (Moment Precision ClockText)

variable {α : Type} {c d : Context} {a b : Value}

/-! ## Text -/

section Text

theorem alike_rejectKind (hc : c.Plain) (hd : d.Plain) (ha : ∃ t, a = .text t)
    (hb : ∃ t, b = .text t) (v : Value) :
    Alike c.reasonSuffix d.reasonSuffix (c.rejectKind a v : Outcome α) (d.rejectKind b v) :=
  hc.alike_reject hd ha hb _

theorem alike_checkLength (hc : c.Plain) (hd : d.Plain) (ha : ∃ t, a = .text t)
    (hb : ∃ t, b = .text t) (minLength maxLength : Option Value) (length : Nat) :
    Alike c.reasonSuffix d.reasonSuffix (checkLength c a minLength maxLength length)
      (checkLength d b minLength maxLength length) := by
  refine Alike.bind (alike_checkGiven fun bound => ?_) fun _ => alike_checkGiven fun bound => ?_
  · exact (Alike.ofFault _).bind fun _ => hc.alike_rejectIf hd ha hb _ _
  · exact (Alike.ofFault _).bind fun _ => hc.alike_rejectIf hd ha hb _ _

theorem TextRule.alike_read (hc : c.Plain) (hd : d.Plain) (ha : ∃ t, a = .text t)
    (hb : ∃ t, b = .text t) (v : Value) :
    Alike c.reasonSuffix d.reasonSuffix (TextRule.read c a v) (TextRule.read d b v) := by
  cases v with
  | text s => exact .ok s
  | number n =>
    simp only [read]
    split
    · exact alike_rejectKind hc hd ha hb _
    · exact Alike.ofFault _
  | _ => exact alike_rejectKind hc hd ha hb _

theorem TextRule.alike_checkPattern (hc : c.Plain) (hd : d.Plain) (ha : ∃ t, a = .text t)
    (hb : ∃ t, b = .text t) (pattern : Option Value) (s : String) :
    Alike c.reasonSuffix d.reasonSuffix (TextRule.checkPattern c a pattern s)
      (TextRule.checkPattern d b pattern s) := by
  refine alike_checkGiven fun pattern => ?_
  split
  · exact (Alike.ofFault _).bind fun _ => hc.alike_rejectIf hd ha hb _ _
  · exact .faulted _ _

theorem TextRule.contextFree_parse (rule : TextRule) : ContextFree rule.parse := by
  intro c d hc hd v
  obtain ⟨t, ht⟩ := rule.exists_expected hc
  obtain ⟨u, hu⟩ := rule.exists_expected hd
  rw [TextRule.parse_eq, TextRule.parse_eq, ht, hu]
  simp only [Outcome.ofFault_ok, Outcome.ok_bind]
  split
  · exact hc.alike_reject hd ⟨t, rfl⟩ ⟨u, rfl⟩ _
  · refine (TextRule.alike_read hc hd ⟨t, rfl⟩ ⟨u, rfl⟩ _).bind fun s => ?_
    refine (alike_checkLength hc hd ⟨t, rfl⟩ ⟨u, rfl⟩ _ _ _).bind fun _ => ?_
    exact (TextRule.alike_checkPattern hc hd ⟨t, rfl⟩ ⟨u, rfl⟩ _ s).bind fun _ => .ok s

end Text

/-! ## Urls, mail addresses and colours -/

section Links

theorem alike_checkPart (hc : c.Plain) (hd : d.Plain) (ha : ∃ t, a = .text t)
    (hb : ∃ t, b = .text t) (part : String) (asked : Option Value) (found : List Char) :
    Alike c.reasonSuffix d.reasonSuffix (checkPart c a part asked found)
      (checkPart d b part asked found) :=
  alike_checkGiven fun _ => hc.alike_rejectIf hd ha hb _ _

theorem UrlRule.alike_checkParts (rule : UrlRule) (hc : c.Plain) (hd : d.Plain)
    (ha : ∃ t, a = .text t) (hb : ∃ t, b = .text t) (protocol domain : List Char) :
    Alike c.reasonSuffix d.reasonSuffix (rule.checkParts c a protocol domain)
      (rule.checkParts d b protocol domain) := by
  refine Alike.bind (alike_checkGiven fun protocols => ?_) fun _ => ?_
  · exact (Alike.ofFault _).bind fun _ => hc.alike_rejectIf hd ha hb _ _
  · exact (alike_checkPart hc hd ha hb _ _ _).bind fun _ => alike_checkPart hc hd ha hb _ _ _

theorem UrlRule.contextFree_parse (rule : UrlRule) : ContextFree rule.parse := by
  intro c d hc hd v
  have ht := hc.expected "url"
  have hu := hd.expected "url"
  unfold UrlRule.parse
  split
  · exact .ok ""
  · refine Alike.bind (rule.text.contextFree_parse (hc.overriding_expected "url")
      (hd.overriding_expected "url") v) fun url => ?_
    split
    · exact hc.alike_reject hd ht hu _
    · exact (rule.alike_checkParts hc hd ht hu _ _).bind fun _ => .ok url

theorem EmailRule.contextFree_parse (rule : EmailRule) : ContextFree rule.parse := by
  intro c d hc hd v
  have ht := hc.expected "email"
  have hu := hd.expected "email"
  unfold EmailRule.parse
  split
  · exact .ok ""
  · refine Alike.bind (rule.text.contextFree_parse (hc.overriding_expected "email")
      (hd.overriding_expected "email") v) fun email => ?_
    split
    · exact hc.alike_reject hd ht hu _
    · exact (alike_checkPart hc hd ht hu _ _ _).bind fun _ => .ok email

theorem contextFree_parseColor : ContextFree parseColor := by
  intro c d hc hd v
  have ht := hc.expected "color"
  have hu := hd.expected "color"
  unfold parseColor
  dsimp only
  split
  · split
    · exact alike_rejectKind hc hd ht hu _
    · split
      · exact .ok _
      · exact hc.alike_reject hd ht hu _
  · exact alike_rejectKind hc hd ht hu _

end Links

/-! ## Numbers -/

section Numbers

theorem NumberRule.alike_readText (rule : NumberRule) (active : String) (hc : c.Plain)
    (hd : d.Plain) (ha : ∃ t, a = .text t) (hb : ∃ t, b = .text t) (s : String) :
    Alike c.reasonSuffix d.reasonSuffix (rule.readText active c a s)
      (rule.readText active d b s) := by
  unfold NumberRule.readText
  split
  · refine (Alike.ofFault _).bind fun separator => ?_
    split
    · exact .ok _
    · exact hc.alike_reject hd ha hb _
  · split
    · exact .ok _
    · exact alike_rejectKind hc hd ha hb _
    · exact .faulted _ _

theorem NumberRule.alike_read (rule : NumberRule) (active : String) (hc : c.Plain)
    (hd : d.Plain) (ha : ∃ t, a = .text t) (hb : ∃ t, b = .text t) (v : Value) :
    Alike c.reasonSuffix d.reasonSuffix (rule.read active c a v) (rule.read active d b v) := by
  unfold NumberRule.read
  split
  · split
    · exact alike_rejectKind hc hd ha hb _
    · exact .ok _
  · split
    · exact alike_rejectKind hc hd ha hb _
    · exact rule.alike_readText active hc hd ha hb _
  · exact alike_rejectKind hc hd ha hb _

theorem NumberRule.alike_checkBounds (rule : NumberRule) (hc : c.Plain) (hd : d.Plain)
    (ha : ∃ t, a = .text t) (hb : ∃ t, b = .text t) (n : Numeric.Number) :
    Alike c.reasonSuffix d.reasonSuffix (rule.checkBounds c a n) (rule.checkBounds d b n) := by
  refine Alike.bind (alike_checkGiven fun bound => ?_) fun _ => alike_checkGiven fun bound => ?_
  · exact (Alike.ofFault _).bind fun _ => hc.alike_rejectIf hd ha hb _ _
  · exact (Alike.ofFault _).bind fun _ => hc.alike_rejectIf hd ha hb _ _

theorem NumberRule.contextFree_parse (rule : NumberRule) (active : String) :
    ContextFree (rule.parse active) := by
  intro c d hc hd v
  have ht := hc.expected "number"
  have hu := hd.expected "number"
  refine (rule.alike_read active hc hd ht hu v).bind fun n => ?_
  exact (rule.alike_checkBounds hc hd ht hu _).bind fun _ => .ok _

theorem NumberRule.contextFree_parseInt (rule : NumberRule) (active : String) :
    ContextFree (rule.parseInt active) := by
  intro c d hc hd v
  refine Alike.bind (rule.contextFree_parse active (hc.overriding_expected "int")
    (hd.overriding_expected "int") v) fun n => ?_
  split
  · exact .ok _
  · split
    · exact .ok _
    · exact hc.alike_reject hd (hc.expected "int") (hd.expected "int") _

theorem FloatRule.contextFree_parse (rule : FloatRule) (active : String) :
    ContextFree (rule.parse active) := by
  intro c d hc hd v
  refine Alike.bind (rule.number.contextFree_parse active (hc.overriding_expected "float")
    (hd.overriding_expected "float") v) fun n => ?_
  split
  · exact .faulted _ _
  · exact Alike.ofFault _

end Numbers

/-! ## Truth values and fixed values -/

section Fixed

theorem contextFree_parseBoolean (asked : Option Bool) : ContextFree (parseBoolean asked) := by
  intro c d hc hd v
  unfold parseBoolean
  split
  · exact .ok _
  · split
    · exact .ok _
    · exact alike_rejectKind hc hd (hc.expected _) (hd.expected _) _

theorem contextFree_parseCheckbox : ContextFree parseCheckbox := by
  intro c d hc hd v
  have hreject := fun v => alike_rejectKind (α := Bool) hc hd (hc.expected "checkbox")
    (hd.expected "checkbox") v
  unfold parseCheckbox
  split
  · exact .ok _
  · split
    · exact .ok _
    · split
      · exact .ok _
      · exact hreject _
  · exact hreject _

theorem contextFree_parseLiteral (value : Value) : ContextFree (parseLiteral value) := by
  intro c d hc hd v
  unfold parseLiteral
  split
  · exact .ok _
  · exact (Alike.ofFault _).bind fun _ =>
      alike_rejectKind hc hd (hc.expected _) (hd.expected _) _

/-- The type of an enumeration can be written, if its members can. -/
theorem exists_memberType {members : List Value} (hc : c.Plain)
    (hmembers : ∃ text, (Value.list members).json = .ok text) :
    ∃ t, memberType members c = .ok (.text t) := by
  obtain ⟨text, htext⟩ := hmembers
  unfold memberType
  rw [htext]
  split
  · rename_i htype
    obtain ⟨t, ht⟩ := hc.overrideType.eq_text htype
    exact ⟨t, by rw [ht]⟩
  · split
    · rename_i hname
      obtain ⟨name, h⟩ := hc.name.eq_text hname
      rw [h]
      exact ⟨_, rfl⟩
    · exact ⟨_, rfl⟩

theorem contextFree_parseMember {members : List Value}
    (hmembers : ∃ text, (Value.list members).json = .ok text) :
    ContextFree (parseMember members) := by
  intro c d hc hd v
  obtain ⟨t, ht⟩ := exists_memberType hc hmembers
  obtain ⟨u, hu⟩ := exists_memberType hd hmembers
  unfold parseMember
  rw [ht, hu]
  split
  · exact .ok _
  · refine (Alike.ofFault v.describeExactly).bind fun got => ?_
    exact hc.alike_rejectAs hd .null .null Iff.rfl [] []

end Fixed

/-! ## Dates and times -/

section Dates

variable (zone : Calendar.Zone)

theorem contextFree_readDate : ContextFree (readDate zone) := by
  intro c d hc hd v
  obtain ⟨subject, hsubject⟩ := hc.exists_boundSubject "date"
  obtain ⟨subject', hsubject'⟩ := hd.exists_boundSubject "date"
  unfold readDate
  rw [hsubject, hsubject']
  split
  · exact .ok _
  · exact hc.alike_reject hd (hc.expected "date") (hd.expected "date") _

/-- Bounds are read in contexts that only have a name, which is all that differs. -/
theorem alike_checkRange (hc : c.Plain) (hd : d.Plain) (ha : ∃ t, a = .text t)
    (hb : ∃ t, b = .text t) (type : String) (min max : Option Value)
    {readBound : Value → Context → Outcome α}
    (hread : ContextFree readBound)
    (below above : α → α → Except Fault Bool) (result : α) :
    Alike c.reasonSuffix d.reasonSuffix (checkRange c a type min max readBound below above result)
      (checkRange d b type min max readBound below above result) := by
  obtain ⟨subject, hsubject⟩ := hc.exists_boundSubject type
  obtain ⟨subject', hsubject'⟩ := hd.exists_boundSubject type
  have hbound : ∀ (s t : String) (bound : Value), Alike c.reasonSuffix d.reasonSuffix
      (readBound bound { name := .text s }) (readBound bound { name := .text t }) :=
    fun s t bound =>
      (hread (Context.plain_named (.text s)) (Context.plain_named (.text t)) bound).mono
        fun _ _ => ⟨rfl, .null⟩
  unfold checkRange
  rw [hsubject, hsubject']
  simp only [Outcome.ofFault_ok, Outcome.ok_bind]
  refine Alike.bind (alike_checkGiven fun bound => ?_) fun _ => alike_checkGiven fun bound => ?_
  · refine (hbound _ _ bound).bind fun least => (Alike.ofFault _).bind fun bad => ?_
    exact hc.alike_rejectIf hd ha hb bad _
  · refine (hbound _ _ bound).bind fun most => (Alike.ofFault _).bind fun bad => ?_
    exact hc.alike_rejectIf hd ha hb bad _

theorem DateRule.contextFree_parse (rule : DateRule) : ContextFree (rule.parse zone) := by
  intro c d hc hd v
  refine (contextFree_readDate zone hc hd v).bind fun m => ?_
  refine Alike.bind ?_ fun _ => .ok m
  exact alike_checkRange hc hd (hc.expected "date") (hd.expected "date") _ _ _
    (contextFree_readDate zone) _ _ _

theorem contextFree_trimInput (nonEmpty : Value) : ContextFree (trimInput nonEmpty) := by
  intro c d hc hd v
  unfold trimInput
  split
  · exact (TextRule.contextFree_parse _ hc hd _).map _
  · exact .ok _

theorem contextFree_readDateText (nonEmpty : Value) : ContextFree (readDateText zone nonEmpty) := by
  intro c d hc hd v
  have hc := hc.overriding_expected "dateString"
  have hd := hd.overriding_expected "dateString"
  refine Alike.bind (contextFree_trimInput nonEmpty hc hd v) fun w => ?_
  exact Alike.bind (contextFree_readDate zone hc hd w) fun m => .ok _

theorem contextFree_readStampText (precision : Precision) (nonEmpty : Value) :
    ContextFree (readStampText zone precision nonEmpty) := by
  intro c d hc hd v
  have hc := hc.overriding_expected "timestamp"
  have hd := hd.overriding_expected "timestamp"
  refine Alike.bind (contextFree_trimInput nonEmpty hc hd v) fun w => ?_
  exact Alike.bind (contextFree_readDate zone hc hd w) fun m => .ok _

theorem alike_writeClockText (precision : Precision) (hc : c.Plain) (hd : d.Plain)
    (ha : ∃ t, a = .text t) (hb : ∃ t, b = .text t) (clock : ClockText) :
    Alike c.reasonSuffix d.reasonSuffix (writeClockText precision c a clock)
      (writeClockText precision d b clock) := by
  unfold writeClockText
  split
  · exact hc.alike_reject hd ha hb _
  · split
    · exact hc.alike_reject hd ha hb _
    · split
      · exact hc.alike_reject hd ha hb _
      · exact .ok _

theorem contextFree_readTimeText (precision : Precision) (nonEmpty : Value) :
    ContextFree (readTimeText zone precision nonEmpty) := by
  intro c d hc hd v
  have ht := hc.expected "timeString"
  have hu := hd.expected "timeString"
  have hc' := hc.overriding_expected "timeString"
  have hd' := hd.overriding_expected "timeString"
  have hmoment := Alike.bind (contextFree_readDate zone hc' hd' v) fun m =>
    Alike.ok (Calendar.writeTime m.time precision)
  unfold readTimeText
  dsimp only
  split
  · split
    · exact hmoment
    · refine Alike.bind (TextRule.contextFree_parse _ hc' hd' _) fun trimmed => ?_
      split
      · exact hc.alike_reject hd ht hu _
      · exact alike_writeClockText precision hc hd ht hu _
  · exact hmoment

theorem SpanRule.contextFree_parse (rule : SpanRule) (type : String)
    {read : Value → Value → Context → Outcome String}
    (hread : ∀ nonEmpty, ContextFree (read nonEmpty)) : ContextFree (rule.parse type read) := by
  intro c d hc hd v
  unfold SpanRule.parse
  split
  · exact .ok ""
  · refine (hread rule.nonEmpty hc hd v).bind fun text => ?_
    refine Alike.bind ?_ fun _ => .ok text
    refine alike_checkRange hc hd (hc.expected type) (hd.expected type) _ _ _ ?_ _ _ _
    intro c d hc hd bound
    beta_reduce
    split
    · exact .ok ""
    · exact hread (.bool false) hc hd bound

end Dates

/-! ## Leaves -/

/-- The members of an enumeration can be written, which is seen to when it is put together. -/
def Leaf.Writable : Leaf → Prop
  | .values members _ => ∃ text, (Value.list members).json = .ok text
  | _ => True

/-- A leaf has alike outcomes in all contexts. -/
theorem Leaf.contextFree_parse {leaf : Leaf} (hleaf : leaf.Writable) (setting : Setting) :
    ContextFree (leaf.parse setting) := by
  intro c d hc hd v
  have hid : Value.IsPhrase (.text "id") := .text "id"
  cases leaf with
  | string rule => exact rule.contextFree_parse.map _ hc hd v
  | url rule => exact rule.contextFree_parse.map _ hc hd v
  | email rule => exact rule.contextFree_parse.map _ hc hd v
  | color => exact contextFree_parseColor.map _ hc hd v
  | number rule => exact (rule.contextFree_parse setting.locale).map _ hc hd v
  | float rule => exact (rule.contextFree_parse setting.locale).map _ hc hd v
  | int rule => exact (rule.contextFree_parseInt setting.locale).map _ hc hd v
  | id =>
    exact (idRule.contextFree_parseInt setting.locale).map _ (hc.overriding hid)
      (hd.overriding hid) v
  | boolean asked => exact (contextFree_parseBoolean asked).map _ hc hd v
  | checkbox => exact contextFree_parseCheckbox.map _ hc hd v
  | literal value => exact contextFree_parseLiteral value hc hd v
  | values members nonempty => exact contextFree_parseMember hleaf hc hd v
  | date rule => exact (rule.contextFree_parse setting.zone).map _ hc hd v
  | dateString rule =>
    exact (rule.contextFree_parse _ (contextFree_readDateText setting.zone)).map _ hc hd v
  | timeString rule precision =>
    exact (rule.contextFree_parse _ (contextFree_readTimeText setting.zone precision)).map _ hc hd v
  | timestamp rule precision =>
    exact (rule.contextFree_parse _ (contextFree_readStampText setting.zone precision)).map _
      hc hd v

end Intake
