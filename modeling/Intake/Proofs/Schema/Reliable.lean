import Intake.Proofs.Faults.Text
import Intake.Proofs.Schema.Errors
import Intake.Proofs.Schema.Parts
import Intake.Proofs.Schema.Union

/-!
# Schemas that tell what is wrong

A leaf is reliable if it has a value for every input or rejects it with a reason, and if it has a
type.  Then the nodes above it have types as well, and reject inputs with reasons of their own.

## Main definitions

* `Value.Named` — a value in which every class has a name.
* `Rejection.Voiced` — a rejection that gives a reason.
* `Answers` — a rule that has a value for an input or rejects it with a reason.
* `Schema.Reliable` — the nodes of a schema of such rules.
* `Schema.Typed` — the nodes that have a type.
* `Schema.GivesReasons` — a schema that gives a reason for every rejection.

## Main statements

* `Schema.exists_typeText` — a reliable schema has a type.
* `Schema.givesReasons` — a reliable schema rejects inputs with a reason.
-/

namespace Intake

open Outcome (bind_eq_ok ofFault_eq_ok rejectsWith_ok rejectsWith_ofFault rejectsWith_mapM)
open Outcome (RejectsWith)

/-! ## Values with named classes -/

namespace Value

/-- The values right below a value. -/
def parts : Value → List Value
  | .list items | .tuple items => items
  | .dict entries => entries.flatMap fun entry => [entry.1, entry.2]
  | _ => []

/-- The class of a value has a name, and so have the classes of all values below it. -/
inductive Named : Value → Prop
  | node {v : Value} (here : v.className ≠ "") (below : ∀ part ∈ v.parts, Named part) : Named v

namespace Named

variable {v key : Value} {items : List Value} {entries : List (Value × Value)}

theorem className_ne_empty (h : v.Named) : v.className ≠ "" := by
  cases h
  assumption

theorem of_mem_parts (h : v.Named) {part : Value} (hpart : part ∈ v.parts) : part.Named := by
  cases h with
  | node _ below => exact below part hpart

theorem of_items (h : v.Named) (hitems : v.items? = some items) : ∀ item ∈ items, item.Named := by
  intro item hitem
  refine h.of_mem_parts ?_
  cases v <;> simp_all [items?, parts]

theorem of_entries (h : (Value.dict entries).Named) {entry : Value × Value}
    (hentry : entry ∈ entries) : entry.1.Named ∧ entry.2.Named := by
  have hparts : ∀ part ∈ [entry.1, entry.2], part.Named := fun part hpart =>
    h.of_mem_parts (List.mem_flatMap.mpr ⟨entry, hentry, hpart⟩)
  exact ⟨hparts _ (by simp), hparts _ (by simp)⟩

theorem of_get? (h : (Value.dict entries).Named) (hget : Entries.get? key entries = some v) :
    v.Named := by
  obtain ⟨entry, hentry, rfl⟩ := Entries.exists_mem_of_get? hget
  exact (h.of_entries hentry).2

end Named

/-- There are words for every value whose class has a name. -/
theorem describe_ne_empty {v : Value} (h : v.className ≠ "") : v.describe ≠ "" := by
  simp only [describe]
  split
  · decide
  · decide
  · split <;> decide
  · split <;> decide
  · split <;> decide
  all_goals first | decide | exact h

end Value

/-! ## Rejections with a reason -/

namespace Rejection

/-- A rejection that is put together from its parts and gives a reason. -/
def Voiced (r : Rejection) : Prop :=
  r.reason ≠ "got " ∧ ∃ name typePrefix type reason suffix errors,
    Rejection.build name typePrefix type reason suffix errors = .ok r

/-- Who gives a reason says what was found. -/
theorem Voiced.toSays {r : Rejection} (h : r.Voiced) : r.Says := by
  obtain ⟨hreason, name, typePrefix, type, reason, suffix, errors, hbuild⟩ := h
  obtain ⟨⟨-, -, hsuffix⟩, -, -, htext⟩ := build_eq_ok hbuild
  exact says_of_reason_ne hreason (hsuffix ▸ htext)

end Rejection

section Voices

open Rejection (Voiced)

variable {α : Type} {ctx : Context} {type v : Value}

theorem got_ne {found : String} (h : found ≠ "") : "got " ++ found ≠ "got " := by
  simpa using append_got_ne h ""

theorem append_ne_got {start : String} (h : 4 < start.length) (rest : String) :
    start ++ rest ≠ "got " := by
  intro heq
  have hlength := congrArg String.length heq
  rw [String.length_append] at hlength
  have : "got ".length = 4 := rfl
  omega

/-- A reason that says of something what it should be. -/
theorem shown_ne_got {shown : Except Fault String} {name verb text : String}
    (hverb : 4 < verb.length) (h : (do return name ++ verb ++ (← shown) : Except Fault String) =
      .ok text) : text ≠ "got " := by
  obtain ⟨s, -, ⟨⟩⟩ := bind_eq_ok.mp h
  refine append_ne_got ?_ s
  rw [String.length_append]
  exact Nat.lt_add_left _ hverb

theorem Context.voiced_rejectAs {name : Value} {reason : String} {errors : List Rejection}
    (hreason : reason ≠ "got ") :
    (ctx.rejectAs name type (.text reason) errors : Outcome α).RejectsWith Voiced := by
  intro r h
  have hbuild := build_of_rejectAs h
  obtain ⟨-, -, htext, -⟩ := Rejection.build_eq_ok hbuild
  cases htext
  exact ⟨hreason, _, _, _, _, _, _, hbuild⟩

theorem Context.voiced_reject {reason : String} {errors : List Rejection}
    (hreason : reason ≠ "got ") :
    (ctx.reject type reason errors : Outcome α).RejectsWith Voiced :=
  ctx.voiced_rejectAs hreason

theorem Context.voiced_rejectKind (hv : v.Named) :
    (ctx.rejectKind type v : Outcome α).RejectsWith Voiced :=
  ctx.voiced_reject (got_ne (Value.describe_ne_empty hv.className_ne_empty))

theorem Context.voiced_rejectIf {bad : Bool} {reason : Except Fault String}
    (hreason : ∀ text, reason = .ok text → text ≠ "got ") :
    (ctx.rejectIf bad type reason).RejectsWith Voiced := by
  rw [rejectIf]
  split
  · exact (rejectsWith_ofFault reason).bind fun text htext =>
      ctx.voiced_reject (hreason text (ofFault_eq_ok.mp htext))
  · exact rejectsWith_ok ()

theorem voiced_checkGiven {given : Option α} {check : α → Outcome Unit}
    (hcheck : ∀ a, (check a).RejectsWith Voiced) : (checkGiven given check).RejectsWith Voiced := by
  cases given with
  | none => exact rejectsWith_ok ()
  | some a => exact hcheck a

/-- A broken bound on a number is a reason, in whatever words. -/
theorem voiced_checkBound {given : Option Value} {bad : Numeric.Number → Bool}
    {reason : Value → Except Fault String}
    (hreason : ∀ bound text, reason bound = .ok text → text ≠ "got ") :
    (checkGiven given fun bound => do
      let m ← Outcome.ofFault bound.toNumber
      ctx.rejectIf (bad m) type (reason bound)).RejectsWith Voiced :=
  voiced_checkGiven fun bound => (rejectsWith_ofFault bound.toNumber).bind fun _ _ =>
    ctx.voiced_rejectIf (hreason bound)

theorem voiced_checkLength {minLength maxLength : Option Value} {length : Nat} :
    (checkLength ctx type minLength maxLength length).RejectsWith Voiced := by
  have hreason : ∀ (name : String) bound text, lengthReason name bound = .ok text →
      text ≠ "got " := fun _ _ _ => shown_ne_got (by decide)
  exact (voiced_checkBound (hreason "minLength")).bind fun _ _ =>
    voiced_checkBound (hreason "maxLength")

theorem ArrayRule.voiced_items {rule : ArrayRule} (hv : v.Named) :
    (rule.items v ctx).RejectsWith Voiced := by
  rw [items_eq]
  split
  · exact voiced_checkLength.bind fun _ _ => rejectsWith_ok _
  · exact ctx.voiced_rejectKind hv

theorem ArrayRule.named_of_items {rule : ArrayRule} {items : List Value} (hv : v.Named)
    (h : rule.items v ctx = .ok items) : ∀ item ∈ items, item.Named := by
  rcases (ArrayRule.items_eq_ok_iff.mp h).1 with hitems | ⟨-, -, rfl⟩
  · exact hv.of_items hitems
  · simpa using hv

theorem named_of_onlyItem {w : Value} (hv : v.Named) (h : onlyItem v ctx = .ok w) : w.Named := by
  obtain ⟨items, hitems, h⟩ := bind_eq_ok.mp h
  split at h
  · cases h
    exact ArrayRule.named_of_items hv hitems _ (by simp)
  · simp at h

theorem voiced_onlyItem (hv : v.Named) : (onlyItem v ctx).RejectsWith Voiced := by
  refine (ArrayRule.voiced_items hv).bind fun items _ => ?_
  split
  · exact rejectsWith_ok _
  · exact ctx.voiced_rejectKind hv

end Voices

/-! ## Types of leaves -/

namespace Leaf

/-- An enumeration of something has a type that says something. -/
theorem alternativesText_ne_empty {members : List Value} {type : String} (hne : members ≠ [])
    (h : alternativesText members = .ok type) : type ≠ "" := by
  obtain ⟨texts, htexts, h⟩ := bind_eq_ok.mp h
  cases h
  have hlength := Outcome.length_of_mapM_eq_ok htexts
  refine joinWith_ne_empty (fun hnil => hne ?_) fun text htext => ?_
  · rw [hnil, List.length_nil, eq_comm, List.length_eq_zero_iff] at hlength
    exact hlength
  · obtain ⟨member, -, hjson⟩ := Outcome.exists_of_mem_mapM htexts htext
    exact Value.json_ne_empty hjson

theorem signature_ne_empty {atom : Leaf} {type : String} (h : atom.signature = .ok type) :
    type ≠ "" := by
  cases atom with
  | literal value => exact Value.json_ne_empty h
  | values members nonempty => exact alternativesText_ne_empty nonempty h
  | _ =>
    cases h
    decide

end Leaf

/-! ## Reliable schemas -/

/-- A rule has a value for every input or rejects it with a reason. -/
def Answers (parse : Value → Context → Outcome Value) : Prop :=
  ∀ ⦃v ctx⦄, v.Named → ctx.Plain →
    (∃ w, parse v ctx = .ok w) ∨ ∃ r, parse v ctx = .error (.rejected r) ∧ r.Voiced

namespace Schema

variable {setting : Setting} {s : Schema}

/-- The nodes that can be relied on: leaves that answer and have a type, objects with keys of text,
arrays whose bounds are numbers, unions of something, and dictionaries whose keys are hashable. -/
def Reliable (setting : Setting) : Schema → Prop
  | .leaf atom _ => Answers (atom.parse setting) ∧ ∃ type, atom.signature = .ok type ∧ type ≠ ""
  | .custom rule => Answers rule.parse ∧ rule.type ≠ ""
  | .object fields _ => ∀ field ∈ fields, ∃ key, field.1 = .text key
  | .array _ rule _ =>
    (∀ bound ∈ rule.minLength, bound.IsNumeric) ∧ ∀ bound ∈ rule.maxLength, bound.IsNumeric
  | .union candidates _ => candidates ≠ []
  | .dict key _ _ => ∀ ⦃v ctx w⦄, v.Named → ctx.Plain → key.parse setting v ctx = .ok w →
    w.isHashable = true
  | .single _ | .nullable .. | .optional _ => True
  | .plain _ => False

theorem require_of_reliable (h : s.Reliable setting) : s.require = .ok () := by
  cases s with
  | plain v => exact h.elim
  | _ => rfl

theorem fields_of_reliable {fields : List (Value × Schema)} {samples : Option SampleOptions}
    (h : (object fields samples).Every (Reliable setting)) :
    ∀ field ∈ fields, (∃ key, field.1 = .text key) ∧ field.2.require = .ok () := by
  intro field hfield
  exact ⟨h.here field hfield, require_of_reliable (h.of_mem (mem_parts_of_mem_fields hfield)).here⟩

/-! ### Types -/

/-- A schema that has a signature is shown by it. -/
theorem typeText_of_signature {type : String} (h : s.signature = .ok type) (hne : type ≠ "") :
    s.shownType s.signature = .ok type := by
  have hempty : type.isEmpty = false := String.isEmpty_eq_false_iff.mpr hne
  rw [h]
  cases s with
  | plain v => cases h
  | _ => simp [shownType, hempty]

theorem exists_needQuotes {keys : List Value} (h : ∀ key ∈ keys, ∃ s, key = .text s) :
    ∃ quoted, needQuotes keys = .ok quoted := by
  induction keys with
  | nil => exact ⟨false, rfl⟩
  | cons key keys ih =>
    obtain ⟨⟨s, rfl⟩, hrest⟩ := List.forall_mem_cons.mp h
    rw [needQuotes]
    split
    · exact ih hrest
    · exact ⟨true, rfl⟩

theorem exists_fieldLines {quoted : Bool} {fields : List (Value × Schema)}
    (h : ∀ field ∈ fields, (∃ key, field.1 = .text key) ∧
      ∃ type, field.2.signature = .ok type ∧ type ≠ "") :
    ∃ lines, fieldLines quoted fields = .ok lines := by
  induction fields with
  | nil => exact ⟨"", rfl⟩
  | cons field fields ih =>
    obtain ⟨⟨⟨key, hkey⟩, type, htype, hne⟩, hrest⟩ := List.forall_mem_cons.mp h
    obtain ⟨_, s⟩ := field
    obtain rfl : _ = Value.text key := hkey
    obtain ⟨lines, hlines⟩ := ih hrest
    have hname : ∃ name, fieldName quoted (.text key) = .ok name := by
      rw [fieldName]
      split
      · exact ⟨_, rfl⟩
      · exact ⟨_, rfl⟩
    obtain ⟨name, hname⟩ := hname
    rw [fieldLines, hname, typeText_of_signature htype hne, hlines]
    exact ⟨_, rfl⟩

theorem exists_signatures {candidates : List Schema}
    (h : ∀ s ∈ candidates, ∃ type, s.signature = .ok type ∧ type ≠ "") :
    ∃ types, signatures candidates = .ok types ∧ types.length = candidates.length ∧
      ∀ type ∈ types, type ≠ "" := by
  induction candidates with
  | nil => exact ⟨[], rfl, rfl, by simp⟩
  | cons s candidates ih =>
    obtain ⟨⟨type, htype, hne⟩, hrest⟩ := List.forall_mem_cons.mp h
    obtain ⟨types, htypes, hlength, hall⟩ := ih hrest
    refine ⟨type :: types, ?_, by simp [hlength], List.forall_mem_cons.mpr ⟨hne, hall⟩⟩
    rw [signatures, typeText_of_signature htype hne, htypes]
    rfl

/-- The nodes that have a type if their parts do: leaves that have one, objects with keys of text,
and unions of something. -/
def Typed : Schema → Prop
  | .leaf atom _ => ∃ type, atom.signature = .ok type ∧ type ≠ ""
  | .custom rule => rule.type ≠ ""
  | .object fields _ => ∀ field ∈ fields, ∃ key, field.1 = .text key
  | .union candidates _ => candidates ≠ []
  | .array .. | .single _ | .nullable .. | .optional _ | .dict .. => True
  | .plain _ => False

theorem typed_of_reliable (h : s.Reliable setting) : s.Typed := by
  cases s with
  | leaf atom samples => exact h.2
  | custom rule => exact h.2
  | object fields samples => exact h
  | union candidates samples => exact h
  | plain v => exact h
  | _ => exact trivial

/-- A schema of such nodes has a signature that says something. -/
theorem exists_signature_of_typed (h : s.Every Typed) :
    ∃ type, s.signature = .ok type ∧ type ≠ "" := by
  induction h with
  | @node s here below ih =>
    cases s with
    | leaf atom samples => exact here
    | custom rule => exact ⟨rule.type, rfl, here⟩
    | object fields samples =>
      have hkeys : ∀ field ∈ fields, ∃ key, field.1 = .text key := here
      obtain ⟨quoted, hquoted⟩ := exists_needQuotes (List.forall_mem_map.mpr hkeys)
      have hlines : ∃ lines, fieldLines quoted fields = .ok lines :=
        exists_fieldLines fun field hfield =>
          ⟨hkeys field hfield, ih _ (mem_parts_of_mem_fields hfield)⟩
      obtain ⟨lines, hlines⟩ := hlines
      refine ⟨_, by rw [signature, hquoted, Outcome.ok_bind, hlines]; rfl, by simp⟩
    | array item rule samples =>
      obtain ⟨type, htype, hne⟩ := ih item (by simp [parts])
      refine ⟨_, by rw [signature, typeText_of_signature htype hne]; rfl, by simp⟩
    | single item =>
      obtain ⟨type, htype, hne⟩ := ih item (by simp [parts])
      exact ⟨type, by rw [signature, typeText_of_signature htype hne], hne⟩
    | nullable inner samples =>
      obtain ⟨type, htype, hne⟩ := ih inner (by simp [parts])
      refine ⟨_, by rw [signature, typeText_of_signature htype hne]; rfl, ?_⟩
      rw [nullableText]
      split <;> simp
    | optional inner => exact ih inner (by simp [parts])
    | union candidates samples =>
      have hcandidates : ∀ s ∈ candidates, ∃ type, s.signature = .ok type ∧ type ≠ "" := ih
      obtain ⟨types, htypes, hlength, hall⟩ := exists_signatures hcandidates
      refine ⟨_, by rw [signature, htypes]; rfl, ?_⟩
      cases types with
      | nil => exact absurd (List.length_eq_zero_iff.mp hlength.symm) here
      | cons type types =>
        obtain ⟨rest, hrest⟩ := joinWith_cons " | " type types
        rw [hrest]
        simp [hall type List.mem_cons_self]
    | dict key value samples =>
      obtain ⟨type, htype, hne⟩ := ih key (by simp [parts])
      obtain ⟨type', htype', hne'⟩ := ih value (by simp [parts])
      refine ⟨"Record<" ++ type ++ "," ++ type' ++ ">", ?_, by simp⟩
      rw [signature, typeText_of_signature htype hne, typeText_of_signature htype' hne']
      rfl
    | plain v => exact here.elim

/-- A reliable schema has a signature that says something. -/
theorem exists_signature (h : s.Every (Reliable setting)) :
    ∃ type, s.signature = .ok type ∧ type ≠ "" :=
  exists_signature_of_typed (h.imp fun _ => typed_of_reliable)

theorem exists_typeText_of_typed (h : s.Every Typed) : ∃ type, s.typeText = .ok type := by
  obtain ⟨type, htype, hne⟩ := exists_signature_of_typed h
  exact ⟨type, typeText_of_signature htype hne⟩

theorem exists_typeText (h : s.Every (Reliable setting)) : ∃ type, s.typeText = .ok type :=
  exists_typeText_of_typed (h.imp fun _ => typed_of_reliable)

/-! ### Rejections -/

section Rejections

open Rejection (Voiced)

variable {samples : Option SampleOptions}

/-- A schema that gives a reason for every rejection, in contexts of text. -/
def GivesReasons (setting : Setting) (s : Schema) : Prop :=
  ∀ ⦃v ctx⦄, v.Named → ctx.Plain → (s.parse setting v ctx).RejectsWith Voiced

theorem rejectsWith_of_answers {parse : Value → Context → Outcome Value} (h : Answers parse)
    {v : Value} {ctx : Context} (hv : v.Named) (hctx : ctx.Plain) :
    (parse v ctx).RejectsWith Voiced := by
  intro r hr
  rcases h hv hctx with ⟨w, hw⟩ | ⟨r', hr', hvoiced⟩
  · cases hw.symm.trans hr
  · cases hr'.symm.trans hr
    exact hvoiced

theorem not_faults_of_answers {parse : Value → Context → Outcome Value} (h : Answers parse)
    {v : Value} {ctx : Context} (hv : v.Named) (hctx : ctx.Plain) : ¬ (parse v ctx).Faults :=
  Outcome.not_faults_iff.mpr ((h hv hctx).imp_right fun hr => hr.imp fun _ => And.left)

/-- A missing field is a reason, and so is what is wrong with one that is given. -/
theorem voiced_parseFields {ctx : Context} {fields : List (Value × Schema)}
    {entries : List (Value × Value)} (hctx : ctx.Plain) (hentries : (Value.dict entries).Named)
    (hfields : ∀ field ∈ fields, (∃ key, field.1 = .text key) ∧ field.2.require = .ok ())
    (hparts : ∀ field ∈ fields, field.2.GivesReasons setting) :
    (parseFields setting fields entries ctx).RejectsWith Voiced := by
  intro r h
  obtain ⟨before, field, after, kept, rfl, -, hfails⟩ :=
    (parseFields_eq_error hctx hfields).mp h
  have hmem : field ∈ before ++ field :: after := by simp
  rcases hfails with ⟨v, inner, hgiven, hinner, h⟩ | ⟨-, name, -, h⟩
  · obtain ⟨key, hkey⟩ := (hfields field hmem).1
    have hplain : inner.Plain := hctx.of_child (hkey ▸ hinner)
    have hv : v.Named := hentries.of_get? (Presence.of_eq_given.mp hgiven).1
    exact hparts field hmem hv hplain r h
  · exact ctx.voiced_rejectAs (by simp [String.ext_iff]) r h

theorem givesReasons_object {fields : List (Value × Schema)}
    (hfields : ∀ field ∈ fields, (∃ key, field.1 = .text key) ∧ field.2.require = .ok ())
    (h : ∀ field ∈ fields, field.2.GivesReasons setting) :
    (object fields samples).GivesReasons setting := by
  intro v ctx hv hctx
  cases v with
  | dict entries => exact (voiced_parseFields hctx hv hfields h).map _
  | _ => exact ctx.voiced_rejectKind hv

theorem givesReasons_array {item : Schema} {rule : ArrayRule} (h : item.GivesReasons setting) :
    (array item rule samples).GivesReasons setting := by
  intro v ctx hv hctx
  obtain ⟨inner, hplain, hparse⟩ := exists_parse_array hctx
  rw [hparse]
  refine (ArrayRule.voiced_items hv).bind fun items hitems => ?_
  refine RejectsWith.map (rejectsWith_mapM fun e he => ?_) _
  exact h (ArrayRule.named_of_items hv hitems e he) hplain

theorem givesReasons_single {item : Schema} (h : item.GivesReasons setting) :
    (single item).GivesReasons setting := by
  intro v ctx hv hctx
  obtain ⟨inner, hinner, hplain⟩ := (hctx.overriding_expected "singletonArray").item
  rw [parse]
  refine (voiced_onlyItem hv).bind fun e he => ?_
  rw [hinner]
  exact h (named_of_onlyItem hv he) hplain

theorem givesReasons_nullable {inner : Schema} (hinner : inner.require = .ok ())
    (h : inner.GivesReasons setting) : (nullable inner samples).GivesReasons setting := by
  intro v ctx hv hctx
  rcases parse_nullable_cases hinner hctx with ⟨-, hparse⟩ | ⟨-, ctx', hplain, hparse⟩
  · rw [hparse]
    exact rejectsWith_ok _
  · rw [hparse]
    exact h hv hplain

/-- A union puts together what its candidates say. -/
theorem givesReasons_union {candidates : List Schema}
    (h : ∀ s ∈ candidates, s.GivesReasons setting) :
    (union candidates samples).GivesReasons setting := by
  intro v ctx hv hctx
  rw [parse]
  refine RejectsWith.bind (fun r hr => absurd hr parseFirst_ne_rejected) fun first hfirst => ?_
  cases first with
  | ok w => exact rejectsWith_ok w
  | error rs =>
    have htold : ∀ r ∈ rs, r.Says := by
      intro r hr
      obtain ⟨s, hs, hr⟩ := exists_candidate_of_mem hfirst hr
      exact (h s hs hv hctx.candidate r hr).toSays
    obtain ⟨reason, hreason, hne⟩ := exists_unionReason htold
    dsimp only
    rw [rejectUnion, hreason, Outcome.ofFault_ok, Outcome.ok_bind]
    exact (rejectsWith_ofFault _).bind fun type _ => ctx.voiced_reject hne

theorem givesReasons_dict {key value : Schema}
    (hkeys : ∀ ⦃v ctx w⦄, v.Named → ctx.Plain → key.parse setting v ctx = .ok w →
      w.isHashable = true)
    (hkey : key.GivesReasons setting) (hvalue : value.GivesReasons setting) :
    (dict key value samples).GivesReasons setting := by
  intro v ctx hv hctx
  obtain ⟨keyContext, valueContext, hkeyPlain, hvaluePlain, hparse⟩ := exists_parse_dict hctx
  cases v with
  | dict entries =>
    rw [hparse]
    refine RejectsWith.map (fun r hr => ?_) _
    have hhashable : ∀ entry ∈ entries, ∀ k, key.parse setting entry.1 keyContext = .ok k →
        k.isHashable = true := fun entry hentry k hk =>
      hkeys (hv.of_entries hentry).1 hkeyPlain hk
    obtain ⟨before, entry, after, -, rfl, -, hr⟩ := (parseEntries_eq_error hhashable).mp hr
    have hentry : entry ∈ before ++ entry :: after := by simp
    obtain ⟨hk, hw⟩ := hv.of_entries hentry
    rcases hr with hr | ⟨k, -, hr⟩
    · exact hkey hk hkeyPlain r hr
    · exact hvalue hw hvaluePlain r hr
  | _ => exact (ctx.overriding _).voiced_rejectKind hv

/-- A reliable schema rejects inputs with a reason: that of a leaf, or one of its own. -/
theorem givesReasons (h : s.Every (Reliable setting)) : s.GivesReasons setting := by
  induction h with
  | @node s here below ih =>
    cases s with
    | leaf atom samples => exact fun v ctx => rejectsWith_of_answers here.1
    | custom rule => exact fun v ctx => rejectsWith_of_answers here.1
    | object fields samples =>
      exact givesReasons_object (fields_of_reliable (.node here below)) fun field hfield =>
        ih _ (mem_parts_of_mem_fields hfield)
    | array item rule samples => exact givesReasons_array (ih item (by simp [parts]))
    | single item => exact givesReasons_single (ih item (by simp [parts]))
    | nullable inner samples =>
      exact givesReasons_nullable (require_of_reliable (below inner (by simp [parts])).here)
        (ih inner (by simp [parts]))
    | optional inner => exact ih inner (by simp [parts])
    | union candidates samples => exact givesReasons_union ih
    | dict key value samples =>
      exact givesReasons_dict here (ih key (by simp [parts])) (ih value (by simp [parts]))
    | plain v => exact here.elim

end Rejections

end Schema

end Intake
