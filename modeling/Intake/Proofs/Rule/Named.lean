import Intake.Leaf
import Intake.Proofs.Rule.Alike
import Intake.Proofs.Faults.Temporal

/-!
# Names and words in rejections

A rule for single values rejects an input by the name that the context has for it, with the words of
the context around what it says, and says which type it expects.  There are two ways out: an
enumeration names its input in the expected type only, and a bound on a date that cannot be read is
rejected by a name of its own.

## Main definitions

* `Rejection.Within` — a rejection with the name and the words of a context.
* `Rejection.Asks` — such a rejection that expects a type.
* `Outcome.RejectsIn`, `Outcome.RejectsFor` — a computation that rejects in one context only, and
  that expects one type only.
* `Leaf.BoundsHold` — a leaf whose bounds on dates and times can be read.

## Main statements

* `Leaf.exists_rejectsFor_parse`, `Leaf.rejectsFor_parse_id` — the type in the rejection by a leaf.
* `Leaf.rejectsIn_parse` — the name and the words in the rejection by a leaf.
* `rejection_parseMember` — the rejection by an enumeration.
-/

namespace Intake

open Outcome (bind_eq_ok bind_eq_error ofFault_eq_ok)
open Calendar (Moment Precision ClockText Zone)

/-! ## Computations that reject in a context -/

/-- A rejection goes by the name that a context has for the input, and has the words of the context
around what it says. -/
structure Rejection.Within (ctx : Context) (r : Rejection) : Prop where
  name : r.name = ctx.name
  typePrefix : r.typePrefix = ctx.typePrefix
  reasonSuffix : r.reasonSuffix = ctx.reasonSuffix

/-- Such a rejection expects the given type, or text of that type that is not empty. -/
structure Rejection.Asks (ctx : Context) (type : Value) (r : Rejection) : Prop
    extends r.Within ctx where
  expectedType : type = .text r.expectedType ∨
    TextRule.nonEmptyType type = .ok (.text r.expectedType)

/-- If a computation rejects its input, it does so in the given context. -/
def Outcome.RejectsIn {α : Type} (ctx : Context) (x : Outcome α) : Prop :=
  x.RejectsWith (Rejection.Within ctx)

/-- If a computation rejects its input, it does so in the given context and expects the given
type. -/
def Outcome.RejectsFor {α : Type} (ctx : Context) (type : Value) (x : Outcome α) : Prop :=
  x.RejectsWith (Rejection.Asks ctx type)

namespace TextRule

/-- The word that asks for some text is put before a type only once. -/
theorem nonEmptyType_idem {type type' : Value} (h : nonEmptyType type = .ok type') :
    nonEmptyType type' = .ok type' := by
  cases type with
  | text s =>
    simp only [nonEmptyType] at h ⊢
    generalize "non-empty " = word at h ⊢
    cases h
    have hstarts : word.toList.isPrefixOf
        (if word.toList.isPrefixOf s.toList then s else word ++ s).toList = true := by
      split
      · assumption
      · rw [String.toList_append]
        exact List.isPrefixOf_iff_prefix.mpr (List.prefix_append _ _)
    exact congrArg (fun s' => Except.ok (Value.text s')) (if_pos hstarts)
  | _ => cases h

end TextRule

namespace Context

variable {ctx : Context} {type : Value}

/-- A type that is in force is what is expected. -/
theorem expected_overriding (htype : type.isTruthy = true) (default : String) :
    (ctx.overriding type).expected default = type := by
  rw [expected, expectedOr]
  exact if_pos htype

theorem isTruthy_expected {default : String} (h : default ≠ "") :
    (ctx.expected default).isTruthy = true := by
  rw [expected, expectedOr]
  split
  · assumption
  · simpa [Value.isTruthy] using h

end Context

namespace Outcome

variable {α β : Type} {ctx : Context} {type : Value} {x : Outcome α}

theorem rejectsIn_ok (a : α) : RejectsIn ctx (.ok a : Outcome α) := rejectsWith_ok a

theorem rejectsIn_ofFault (y : Except Fault α) : RejectsIn ctx (ofFault y) := rejectsWith_ofFault y

theorem RejectsIn.bind {f : α → Outcome β} (hx : x.RejectsIn ctx) (hf : ∀ a, (f a).RejectsIn ctx) :
    (x >>= f).RejectsIn ctx :=
  RejectsWith.bind hx fun a _ => hf a

/-- The type in force has no part in the name and the words of a context. -/
theorem RejectsIn.of_overriding (hx : x.RejectsIn (ctx.overriding type)) : x.RejectsIn ctx := by
  intro r hr
  obtain ⟨hname, htype, hreason⟩ := hx r hr
  exact ⟨hname, htype, hreason⟩

theorem rejectsFor_ok (a : α) : RejectsFor ctx type (.ok a : Outcome α) := rejectsWith_ok a

theorem rejectsFor_faulted (fault : Fault) :
    RejectsFor ctx type (.error (.faulted fault) : Outcome α) :=
  rejectsWith_faulted fault

theorem rejectsFor_ofFault (y : Except Fault α) : RejectsFor ctx type (ofFault y) :=
  rejectsWith_ofFault y

theorem RejectsFor.bind {f : α → Outcome β} (hx : x.RejectsFor ctx type)
    (hf : ∀ a, (f a).RejectsFor ctx type) : (x >>= f).RejectsFor ctx type :=
  RejectsWith.bind hx fun a _ => hf a

theorem RejectsFor.bind_of_ok {f : α → Outcome β} (hx : x.RejectsFor ctx type)
    (hf : ∀ a, x = .ok a → (f a).RejectsFor ctx type) : (x >>= f).RejectsFor ctx type :=
  RejectsWith.bind hx hf

theorem RejectsFor.map (hx : x.RejectsFor ctx type) (f : α → β) : (f <$> x).RejectsFor ctx type :=
  RejectsWith.map hx f

theorem RejectsFor.rejectsIn (hx : x.RejectsFor ctx type) : x.RejectsIn ctx := fun r hr =>
  (hx r hr).toWithin

/-- What is called with a type in force expects that type, whatever it expects otherwise. -/
theorem RejectsFor.of_overriding {default : String} (htype : type.isTruthy = true)
    (hx : x.RejectsFor (ctx.overriding type) ((ctx.overriding type).expected default)) :
    x.RejectsFor ctx type := by
  intro r hr
  obtain ⟨⟨hname, hprefix, hreason⟩, hexpected⟩ := hx r hr
  rw [Context.expected_overriding htype] at hexpected
  exact ⟨⟨hname, hprefix, hreason⟩, hexpected⟩

/-- What a rule for text expects is text, whether or not it may be empty. -/
theorem RejectsFor.of_expected {rule : TextRule} (htype : rule.expected ctx = .ok type)
    (hx : x.RejectsFor ctx type) : x.RejectsFor ctx (ctx.expected "string") := by
  unfold TextRule.expected at htype
  dsimp only at htype
  split at htype
  · intro r hr
    obtain ⟨hwithin, rfl | hexpected⟩ := hx r hr
    · exact ⟨hwithin, .inr htype⟩
    · rw [TextRule.nonEmptyType_idem htype] at hexpected
      cases hexpected
      exact ⟨hwithin, .inr htype⟩
  · cases htype
    exact hx

end Outcome

open Outcome (RejectsFor rejectsFor_ok rejectsFor_faulted rejectsFor_ofFault)

section Rejections

variable {α : Type} {ctx : Context} {type v : Value}

/-- A rejection has the given name, the words of the context and what was expected. -/
theorem Context.parts_of_rejectAs {name reason : Value} {errors : List Rejection} {r : Rejection}
    (h : (ctx.rejectAs name type reason errors : Outcome α) = .error (.rejected r)) :
    r.Within { ctx with name } ∧ type = .text r.expectedType := by
  obtain ⟨⟨hname, hprefix, hsuffix⟩, htype, -⟩ := Rejection.build_eq_ok (build_of_rejectAs h)
  exact ⟨⟨hname, hprefix, hsuffix⟩, htype⟩

theorem Context.rejectsFor_rejectAs (ctx : Context) (name type reason : Value)
    (errors : List Rejection) :
    (ctx.rejectAs name type reason errors : Outcome α).RejectsFor { ctx with name } type :=
  fun _ h => ⟨(ctx.parts_of_rejectAs h).1, .inl (ctx.parts_of_rejectAs h).2⟩

theorem Context.rejectsFor_reject (type : Value) (reason : String) (errors : List Rejection) :
    (ctx.reject type reason errors : Outcome α).RejectsFor ctx type :=
  ctx.rejectsFor_rejectAs ctx.name type (.text reason) errors

theorem Context.rejectsFor_rejectKind (type v : Value) :
    (ctx.rejectKind type v : Outcome α).RejectsFor ctx type :=
  rejectsFor_reject type _ []

theorem Context.rejectsFor_rejectIf (bad : Bool) (type : Value) (reason : Except Fault String) :
    (ctx.rejectIf bad type reason).RejectsFor ctx type := by
  cases bad with
  | false => exact rejectsFor_ok ()
  | true => exact (rejectsFor_ofFault reason).bind fun text => rejectsFor_reject type text []

theorem rejectsFor_checkGiven {given : Option α} {check : α → Outcome Unit}
    (h : ∀ a ∈ given, (check a).RejectsFor ctx type) :
    (checkGiven given check).RejectsFor ctx type := by
  cases given with
  | none => exact rejectsFor_ok ()
  | some a => exact h a rfl

/-- A check of a given bound, which has to be a number. -/
theorem rejectsFor_checkNumber {given : Option Value} {bad : Numeric.Number → Bool}
    {reason : Value → Except Fault String} :
    (checkGiven given fun bound => do
      let n ← Outcome.ofFault bound.toNumber
      ctx.rejectIf (bad n) type (reason bound)).RejectsFor ctx type :=
  rejectsFor_checkGiven fun _ _ =>
    (rejectsFor_ofFault _).bind fun _ => Context.rejectsFor_rejectIf _ _ _

theorem rejectsFor_checkLength {minLength maxLength : Option Value} {length : Nat} :
    (checkLength ctx type minLength maxLength length).RejectsFor ctx type :=
  rejectsFor_checkNumber.bind fun _ => rejectsFor_checkNumber

end Rejections

/-! ## Text -/

section Text

variable {ctx : Context} {v : Value}

theorem TextRule.rejectsFor_read (type : Value) (v : Value) :
    (TextRule.read ctx type v).RejectsFor ctx type := by
  cases v with
  | text s => exact rejectsFor_ok s
  | number n =>
    simp only [read]
    split
    · exact Context.rejectsFor_rejectKind _ _
    · exact rejectsFor_ofFault _
  | _ => exact Context.rejectsFor_rejectKind _ _

theorem TextRule.rejectsFor_checkPattern (type : Value) (pattern : Option Value) (s : String) :
    (TextRule.checkPattern ctx type pattern s).RejectsFor ctx type := by
  refine rejectsFor_checkGiven fun pattern _ => ?_
  split
  · exact (rejectsFor_ofFault _).bind fun _ => Context.rejectsFor_rejectIf _ _ _
  · exact rejectsFor_faulted _

theorem TextRule.rejectsFor_parse (rule : TextRule) (v : Value) (ctx : Context) :
    (rule.parse v ctx).RejectsFor ctx (ctx.expected "string") := by
  rw [TextRule.parse_eq]
  refine (rejectsFor_ofFault _).bind_of_ok fun type htype => ?_
  have hexpected : rule.expected ctx = .ok type := ofFault_eq_ok.mp htype
  refine RejectsFor.of_expected hexpected ?_
  split
  · exact Context.rejectsFor_reject _ _ _
  · refine (rejectsFor_read _ _).bind fun s => ?_
    refine rejectsFor_checkLength.bind fun _ => ?_
    exact (rejectsFor_checkPattern _ _ _).bind fun _ => rejectsFor_ok s

end Text

/-! ## Urls, mail addresses and colours -/

section Links

variable {ctx : Context}

theorem rejectsFor_checkPart (type : Value) (part : String) (asked : Option Value)
    (found : List Char) : (checkPart ctx type part asked found).RejectsFor ctx type :=
  rejectsFor_checkGiven fun _ _ => Context.rejectsFor_rejectIf _ _ _

theorem UrlRule.rejectsFor_checkParts (rule : UrlRule) (type : Value)
    (protocol domain : List Char) :
    (rule.checkParts ctx type protocol domain).RejectsFor ctx type := by
  refine Outcome.RejectsFor.bind (rejectsFor_checkGiven fun protocols _ => ?_) fun _ => ?_
  · exact (rejectsFor_ofFault _).bind fun _ => Context.rejectsFor_rejectIf _ _ _
  · exact (rejectsFor_checkPart _ _ _ _).bind fun _ => rejectsFor_checkPart _ _ _ _

theorem UrlRule.rejectsFor_parse (rule : UrlRule) (v : Value) (ctx : Context) :
    (rule.parse v ctx).RejectsFor ctx (ctx.expected "url") := by
  unfold UrlRule.parse
  split
  · exact rejectsFor_ok ""
  · have htext : (rule.text.parse v (ctx.overriding (ctx.expected "url"))).RejectsFor ctx
        (ctx.expected "url") :=
      (rule.text.rejectsFor_parse v _).of_overriding (Context.isTruthy_expected (by decide))
    refine htext.bind fun url => ?_
    split
    · exact Context.rejectsFor_reject _ _ _
    · exact (rule.rejectsFor_checkParts _ _ _).bind fun _ => rejectsFor_ok url

theorem EmailRule.rejectsFor_parse (rule : EmailRule) (v : Value) (ctx : Context) :
    (rule.parse v ctx).RejectsFor ctx (ctx.expected "email") := by
  unfold EmailRule.parse
  split
  · exact rejectsFor_ok ""
  · have htext : (rule.text.parse v (ctx.overriding (ctx.expected "email"))).RejectsFor ctx
        (ctx.expected "email") :=
      (rule.text.rejectsFor_parse v _).of_overriding (Context.isTruthy_expected (by decide))
    refine htext.bind fun email => ?_
    split
    · exact Context.rejectsFor_reject _ _ _
    · exact (rejectsFor_checkPart _ _ _ _).bind fun _ => rejectsFor_ok email

theorem rejectsFor_parseColor (v : Value) (ctx : Context) :
    (parseColor v ctx).RejectsFor ctx (ctx.expected "color") := by
  unfold parseColor
  dsimp only
  split
  · split
    · exact Context.rejectsFor_rejectKind _ _
    · split
      · exact rejectsFor_ok _
      · exact Context.rejectsFor_reject _ _ _
  · exact Context.rejectsFor_rejectKind _ _

end Links

/-! ## Numbers -/

section Numbers

variable {ctx : Context}

theorem NumberRule.rejectsFor_readText (rule : NumberRule) (active : String) (type : Value)
    (s : String) : (rule.readText active ctx type s).RejectsFor ctx type := by
  unfold NumberRule.readText
  split
  · refine (rejectsFor_ofFault _).bind fun separator => ?_
    split
    · exact rejectsFor_ok _
    · exact Context.rejectsFor_reject _ _ _
  · split
    · exact rejectsFor_ok _
    · exact Context.rejectsFor_rejectKind _ _
    · exact rejectsFor_faulted _

theorem NumberRule.rejectsFor_read (rule : NumberRule) (active : String) (type v : Value) :
    (rule.read active ctx type v).RejectsFor ctx type := by
  unfold NumberRule.read
  split
  · split
    · exact Context.rejectsFor_rejectKind _ _
    · exact rejectsFor_ok _
  · split
    · exact Context.rejectsFor_rejectKind _ _
    · exact rule.rejectsFor_readText active _ _
  · exact Context.rejectsFor_rejectKind _ _

theorem NumberRule.rejectsFor_parse (rule : NumberRule) (active : String) (v : Value)
    (ctx : Context) : (rule.parse active v ctx).RejectsFor ctx (ctx.expected "number") := by
  refine (rule.rejectsFor_read active _ v).bind fun n => ?_
  refine Outcome.RejectsFor.bind ?_ fun _ => rejectsFor_ok _
  exact rejectsFor_checkNumber.bind fun _ => rejectsFor_checkNumber

theorem NumberRule.rejectsFor_parseInt (rule : NumberRule) (active : String) (v : Value)
    (ctx : Context) : (rule.parseInt active v ctx).RejectsFor ctx (ctx.expected "int") := by
  have hnumber : (rule.parse active v (ctx.overriding (ctx.expected "int"))).RejectsFor ctx
      (ctx.expected "int") :=
    (rule.rejectsFor_parse active v _).of_overriding (Context.isTruthy_expected (by decide))
  refine hnumber.bind fun n => ?_
  split
  · exact rejectsFor_ok _
  · split
    · exact rejectsFor_ok _
    · exact Context.rejectsFor_reject _ _ _

theorem FloatRule.rejectsFor_parse (rule : FloatRule) (active : String) (v : Value)
    (ctx : Context) : (rule.parse active v ctx).RejectsFor ctx (ctx.expected "float") := by
  have hnumber : (rule.number.parse active v (ctx.overriding (ctx.expected "float"))).RejectsFor ctx
      (ctx.expected "float") :=
    (rule.number.rejectsFor_parse active v _).of_overriding
      (Context.isTruthy_expected (by decide))
  refine hnumber.bind fun n => ?_
  split
  · exact rejectsFor_faulted _
  · exact rejectsFor_ofFault _

end Numbers

/-! ## Truth values and fixed values -/

section Fixed

variable {ctx : Context} {v : Value}

theorem exists_rejectsFor_parseBoolean (asked : Option Bool) (v : Value) (ctx : Context) :
    ∃ type, (parseBoolean asked v ctx).RejectsFor ctx (ctx.expected type) := by
  cases asked with
  | none => exact ⟨"boolean", rejectsFor_ok _⟩
  | some b =>
    refine ⟨"boolean (expect: " ++ (if b then "true" else "false") ++ ")", ?_⟩
    by_cases htruth : v.truth = b
    · rw [parseBoolean, if_pos htruth]
      exact rejectsFor_ok b
    · rw [parseBoolean, if_neg htruth]
      exact Context.rejectsFor_rejectKind _ _

theorem rejectsFor_parseCheckbox (v : Value) (ctx : Context) :
    (parseCheckbox v ctx).RejectsFor ctx (ctx.expected "checkbox") := by
  unfold parseCheckbox
  split
  · exact rejectsFor_ok _
  · split
    · exact rejectsFor_ok _
    · split
      · exact rejectsFor_ok _
      · exact Context.rejectsFor_rejectKind _ _
  · exact Context.rejectsFor_rejectKind _ _

theorem exists_rejectsFor_parseLiteral (value v : Value) (ctx : Context) :
    ∃ type, (parseLiteral value v ctx).RejectsFor ctx (ctx.expected type) := by
  unfold parseLiteral
  cases value.json with
  | error fault =>
    refine ⟨"literal", ?_⟩
    split
    · exact rejectsFor_ok _
    · exact rejectsFor_faulted fault
  | ok text =>
    refine ⟨"literal " ++ text, ?_⟩
    split
    · exact rejectsFor_ok _
    · exact Context.rejectsFor_rejectKind _ _

/-- An enumeration rejects an input by no name.  It quotes the name in what it expects, unless
another type is in force. -/
theorem rejection_parseMember {members : List Value} {r : Rejection}
    (h : parseMember members v ctx = .error (.rejected r)) :
    r.Within { ctx with name := .null } ∧ memberType members ctx = .ok (.text r.expectedType) := by
  unfold parseMember at h
  split at h
  · cases h
  · rcases bind_eq_error.mp h with h | ⟨type, htype, h⟩
    · exact absurd h (Outcome.ofFault_ne_rejected _ _)
    · rcases bind_eq_error.mp h with h | ⟨got, -, h⟩
      · exact absurd h (Outcome.ofFault_ne_rejected _ _)
      · obtain ⟨hwithin, rfl⟩ := ctx.parts_of_rejectAs h
        exact ⟨hwithin, ofFault_eq_ok.mp htype⟩

end Fixed

/-! ## Dates and times -/

section Dates

variable {ctx : Context} {zone : Zone}

/-- A range whose bounds can be read has no rejections but its own. -/
theorem rejectsFor_checkRange {α : Type} {expected : Value} {type : String} {min max : Option Value}
    {readBound : Value → Context → Outcome α} {below above : α → α → Except Fault Bool}
    {result : α} (hbounds : ∀ bound, bound ∈ min ∨ bound ∈ max → ∀ c : Context, c.Plain →
      ∃ a, readBound bound c = .ok a) :
    (checkRange ctx expected type min max readBound below above result).RejectsFor ctx
      expected := by
  refine (rejectsFor_ofFault _).bind fun subject => ?_
  refine Outcome.RejectsFor.bind (rejectsFor_checkGiven fun bound hbound => ?_) fun _ =>
    rejectsFor_checkGiven fun bound hbound => ?_
  · obtain ⟨least, hleast⟩ := hbounds bound (.inl hbound)
      { name := .text ("min value of " ++ subject) } (Context.plain_named (.text _))
    rw [hleast]
    exact (rejectsFor_ofFault _).bind fun _ => Context.rejectsFor_rejectIf _ _ _
  · obtain ⟨most, hmost⟩ := hbounds bound (.inr hbound)
      { name := .text ("max value of " ++ subject) } (Context.plain_named (.text _))
    rw [hmost]
    exact (rejectsFor_ofFault _).bind fun _ => Context.rejectsFor_rejectIf _ _ _

theorem rejectsFor_readDate (v : Value) (ctx : Context) :
    (readDate zone v ctx).RejectsFor ctx (ctx.expected "date") := by
  unfold readDate
  split
  · exact (rejectsFor_ofFault _).bind fun _ => rejectsFor_ok _
  · exact Context.rejectsFor_reject _ _ _

theorem DateRule.rejectsFor_parse {rule : DateRule} (hrule : rule.Sound zone) (v : Value)
    (ctx : Context) : (rule.parse zone v ctx).RejectsFor ctx (ctx.expected "date") := by
  refine (rejectsFor_readDate v ctx).bind fun m => ?_
  refine (rejectsFor_checkRange fun bound hbound c hc => ?_).bind fun _ => rejectsFor_ok m
  obtain ⟨a, ha⟩ := hbound.elim (hrule.min bound) (hrule.max bound)
  exact ⟨a, readDate_of_toMoment? hc ha⟩

theorem rejectsFor_trimInput (nonEmpty v : Value) (ctx : Context) :
    (trimInput nonEmpty v ctx).RejectsFor ctx (ctx.expected "string") := by
  unfold trimInput
  split
  · exact (TextRule.rejectsFor_parse _ _ ctx).map _
  · exact rejectsFor_ok _

/-- Trimming and reading a date, with another type in force. -/
theorem rejectsFor_readTrimmed {α : Type} {type : Value} (htype : type.isTruthy = true)
    (nonEmpty v : Value) (f : Moment → Outcome α) (hf : ∀ m, (f m).RejectsFor ctx type) :
    (do
      let m ← readDate zone (← trimInput nonEmpty v (ctx.overriding type)) (ctx.overriding type)
      f m).RejectsFor ctx type := by
  have htrim : (trimInput nonEmpty v (ctx.overriding type)).RejectsFor ctx type :=
    (rejectsFor_trimInput nonEmpty v _).of_overriding htype
  have hread : ∀ w, (readDate zone w (ctx.overriding type)).RejectsFor ctx type := fun w =>
    (rejectsFor_readDate w _).of_overriding htype
  exact htrim.bind fun w => (hread w).bind hf

theorem rejectsFor_readDateText (nonEmpty v : Value) (ctx : Context) :
    (readDateText zone nonEmpty v ctx).RejectsFor ctx (ctx.expected "dateString") :=
  rejectsFor_readTrimmed (Context.isTruthy_expected (by decide)) _ _ _ fun _ => rejectsFor_ok _

theorem rejectsFor_readStampText (precision : Precision) (nonEmpty v : Value) (ctx : Context) :
    (readStampText zone precision nonEmpty v ctx).RejectsFor ctx (ctx.expected "timestamp") :=
  rejectsFor_readTrimmed (Context.isTruthy_expected (by decide)) _ _ _ fun _ => rejectsFor_ok _

theorem rejectsFor_writeClockText (precision : Precision) (type : Value) (clock : ClockText) :
    (writeClockText precision ctx type clock).RejectsFor ctx type := by
  unfold writeClockText
  split
  · exact Context.rejectsFor_reject _ _ _
  · split
    · exact Context.rejectsFor_reject _ _ _
    · split
      · exact Context.rejectsFor_reject _ _ _
      · exact rejectsFor_ok _

theorem rejectsFor_readTimeText (precision : Precision) (nonEmpty v : Value) (ctx : Context) :
    (readTimeText zone precision nonEmpty v ctx).RejectsFor ctx (ctx.expected "timeString") := by
  have htype : (ctx.expected "timeString").isTruthy = true :=
    Context.isTruthy_expected (by decide)
  have hread : (readDate zone v (ctx.overriding (ctx.expected "timeString"))).RejectsFor ctx
      (ctx.expected "timeString") := (rejectsFor_readDate v _).of_overriding htype
  unfold readTimeText
  dsimp only
  split
  · split
    · exact hread.bind fun _ => rejectsFor_ok _
    · rename_i s _
      have htext : (TextRule.parse { nonEmpty } (.text s)
          (ctx.overriding (ctx.expected "timeString"))).RejectsFor ctx
            (ctx.expected "timeString") := (TextRule.rejectsFor_parse _ _ _).of_overriding htype
      refine htext.bind fun trimmed => ?_
      split
      · exact Context.rejectsFor_reject _ _ _
      · exact rejectsFor_writeClockText _ _ _
  · exact hread.bind fun _ => rejectsFor_ok _

theorem SpanRule.rejectsFor_parse {rule : SpanRule} {type : String}
    {read : Value → Value → Context → Outcome String} (hrule : rule.Sound read)
    (hread : ∀ nonEmpty v ctx, (read nonEmpty v ctx).RejectsFor ctx (ctx.expected type))
    (hfree : ∀ nonEmpty, ContextFree (read nonEmpty)) (v : Value) (ctx : Context) :
    (rule.parse type read v ctx).RejectsFor ctx (ctx.expected type) := by
  unfold SpanRule.parse
  split
  · exact rejectsFor_ok _
  · refine (hread _ v ctx).bind fun text => ?_
    refine (rejectsFor_checkRange fun bound hbound c hc => ?_).bind fun _ => rejectsFor_ok text
    rcases hrule bound hbound with rfl | ⟨s, hs⟩
    · exact ⟨"", rfl⟩
    · split
      · exact ⟨"", rfl⟩
      · exact ⟨s, ((hfree (.bool false) Context.plain_root hc bound).eq_ok_iff s).mp hs⟩

end Dates

/-! ## Leaves -/

namespace Leaf

/-- A leaf whose bounds on dates and times can be read. -/
def BoundsHold (zone : Zone) : Leaf → Prop
  | .date rule => rule.Sound zone
  | .dateString rule => rule.Sound (readDateText zone)
  | .timeString rule precision => rule.Sound (readTimeText zone precision)
  | .timestamp rule precision => rule.Sound (readStampText zone precision)
  | _ => True

/-- A leaf other than a key or an enumeration expects the type in force, or else one of its own. -/
theorem exists_rejectsFor_parse {leaf : Leaf} {setting : Setting}
    (hleaf : leaf.BoundsHold setting.zone) (hid : leaf ≠ .id)
    (hvalues : ∀ members nonempty, leaf ≠ .values members nonempty) (v : Value) (ctx : Context) :
    ∃ type, (leaf.parse setting v ctx).RejectsFor ctx (ctx.expected type) := by
  cases leaf with
  | string rule => exact ⟨_, (rule.rejectsFor_parse v ctx).map _⟩
  | url rule => exact ⟨_, (rule.rejectsFor_parse v ctx).map _⟩
  | email rule => exact ⟨_, (rule.rejectsFor_parse v ctx).map _⟩
  | color => exact ⟨_, (rejectsFor_parseColor v ctx).map _⟩
  | number rule => exact ⟨_, (rule.rejectsFor_parse setting.locale v ctx).map _⟩
  | float rule => exact ⟨_, (rule.rejectsFor_parse setting.locale v ctx).map _⟩
  | int rule => exact ⟨_, (rule.rejectsFor_parseInt setting.locale v ctx).map _⟩
  | id => exact absurd rfl hid
  | boolean asked =>
    obtain ⟨type, htype⟩ := exists_rejectsFor_parseBoolean asked v ctx
    exact ⟨type, htype.map _⟩
  | checkbox => exact ⟨_, (rejectsFor_parseCheckbox v ctx).map _⟩
  | literal value => exact exists_rejectsFor_parseLiteral value v ctx
  | values members nonempty => exact absurd rfl (hvalues members nonempty)
  | date rule => exact ⟨_, (DateRule.rejectsFor_parse hleaf v ctx).map _⟩
  | dateString rule =>
    exact ⟨_, (SpanRule.rejectsFor_parse hleaf rejectsFor_readDateText
      (contextFree_readDateText _) v ctx).map _⟩
  | timeString rule precision =>
    exact ⟨_, (SpanRule.rejectsFor_parse hleaf (rejectsFor_readTimeText precision)
      (contextFree_readTimeText _ precision) v ctx).map _⟩
  | timestamp rule precision =>
    exact ⟨_, (SpanRule.rejectsFor_parse hleaf (rejectsFor_readStampText precision)
      (contextFree_readStampText _ precision) v ctx).map _⟩

/-- A key is expected to be one, whatever type is in force. -/
theorem rejectsFor_parse_id (setting : Setting) (v : Value) (ctx : Context) :
    (Leaf.id.parse setting v ctx).RejectsFor ctx (.text "id") := by
  have hid : (parseId setting.locale v ctx).RejectsFor ctx (.text "id") :=
    (idRule.rejectsFor_parseInt setting.locale v _).of_overriding rfl
  exact hid.map _

/-- A leaf that is no enumeration rejects an input by its name, in the words of its context. -/
theorem rejectsIn_parse {leaf : Leaf} {setting : Setting} (hleaf : leaf.BoundsHold setting.zone)
    (hvalues : ∀ members nonempty, leaf ≠ .values members nonempty) (v : Value) (ctx : Context) :
    (leaf.parse setting v ctx).RejectsIn ctx := by
  by_cases hid : leaf = .id
  · rw [hid]
    exact (rejectsFor_parse_id setting v ctx).rejectsIn
  · obtain ⟨type, htype⟩ := exists_rejectsFor_parse hleaf hid hvalues v ctx
    exact htype.rejectsIn

/-- The words of the context are in the rejection by any leaf. -/
theorem words_of_parse {leaf : Leaf} {setting : Setting} (hleaf : leaf.BoundsHold setting.zone)
    {v : Value} {ctx : Context} {r : Rejection}
    (h : leaf.parse setting v ctx = .error (.rejected r)) :
    r.typePrefix = ctx.typePrefix ∧ r.reasonSuffix = ctx.reasonSuffix := by
  by_cases hvalues : ∃ members nonempty, leaf = .values members nonempty
  · obtain ⟨members, nonempty, rfl⟩ := hvalues
    obtain ⟨hwithin, -⟩ := rejection_parseMember h
    exact ⟨hwithin.typePrefix, hwithin.reasonSuffix⟩
  · have hwithin := rejectsIn_parse hleaf
      (fun members nonempty heq => hvalues ⟨members, nonempty, heq⟩) v ctx r h
    exact ⟨hwithin.typePrefix, hwithin.reasonSuffix⟩

end Leaf

end Intake
