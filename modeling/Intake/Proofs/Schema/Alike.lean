import Intake.Proofs.Rule.Alike
import Intake.Proofs.Schema.Nodes
import Intake.Proofs.Schema.Parts
import Intake.Proofs.Schema.Union

/-!
# Schemas in two contexts

The context of an input only gives words to its rejection.  Whether there is a rejection at all, and
what value comes out if there is none, is the same in all contexts that hold text or nothing.

Every node derives the contexts of its parts in its own way.  A union also looks at how its
candidates fail, so alike outcomes have to agree in whether there is a reason.

## Main definitions

* `Schema.Packaged` — the nodes that do not come from a user.

## Main statements

* `Schema.contextFree_parse` — alike outcomes in all plain contexts.
* `Schema.parse_eq_ok_of_plain` — the same value in all plain contexts.
-/

namespace Intake

open Outcome (Alike)

/-! ## Derived contexts -/

namespace Context

variable {ctx inner : Context}

theorem suffix_item (h : ctx.item = .ok inner) :
    joinPhrases ctx.reasonSuffix (.text "in array") = .ok inner.reasonSuffix := by
  obtain ⟨p, -, h⟩ := Outcome.bind_eq_ok.mp h
  obtain ⟨q, hq, h⟩ := Outcome.bind_eq_ok.mp h
  cases h
  exact hq

theorem suffix_entrySide {type : Value} {side : String} (h : ctx.entrySide type side = .ok inner) :
    joinPhrases ctx.reasonSuffix (.text side) = .ok inner.reasonSuffix := by
  obtain ⟨q, hq, h⟩ := Outcome.bind_eq_ok.mp h
  cases h
  exact hq

theorem suffix_nonNull (h : ctx.nonNull = .ok inner) : inner.reasonSuffix = ctx.reasonSuffix := by
  obtain ⟨p, -, h⟩ := Outcome.bind_eq_ok.mp h
  cases h
  rfl

theorem suffix_child {key : Value} (h : ctx.child key = .ok inner) :
    inner.reasonSuffix = .null := by
  rw [child] at h
  split at h
  · obtain ⟨p, -, h⟩ := Outcome.bind_eq_ok.mp h
    obtain ⟨q, -, h⟩ := Outcome.bind_eq_ok.mp h
    cases h
    rfl
  · cases h
    rfl

end Context

/-- Two words after another are a note. -/
theorem isNote_of_joinPhrases {a b : Value} (ha : a.IsPhrase) {s : String} (hs : s ≠ "")
    (h : joinPhrases a (.text s) = .ok b) : b.IsNote := by
  have hs' : (Value.text s).isTruthy = true := by simp [Value.isTruthy, hs]
  rw [joinPhrases] at h
  rw [hs', Bool.and_true] at h
  split at h
  · rename_i hta
    obtain ⟨t, rfl⟩ := ha.eq_text hta
    cases h
    exact .text (by simp [hs])
  · cases h
    exact .text hs

section Mono

variable {α : Type} {c d : Context} {p q : Value} {x y : Outcome α}

/-- Outcomes in contexts with one more phrase are alike in the contexts without it. -/
theorem Context.Plain.alike_of_join (hc : c.Plain) {s : String} (hs : s ≠ "")
    (hp : joinPhrases c.reasonSuffix (.text s) = .ok p)
    (hq : joinPhrases d.reasonSuffix (.text s) = .ok q) (h : Alike p q x y) :
    Alike c.reasonSuffix d.reasonSuffix x y := by
  refine h.mono fun heq _ => ⟨?_, isNote_of_joinPhrases hc.reasonSuffix hs hp⟩
  rw [heq, hq] at hp
  exact (Except.ok.inj hp).symm

theorem alike_of_null (h : Alike .null .null x y) : Alike p q x y :=
  h.mono fun _ _ => ⟨rfl, .null⟩

end Mono

/-! ## Unions -/

/-- The rejections of one input by the candidates of a union in two contexts: they end with notes,
and if some candidate says nothing in one context, some does so in the other. -/
structure AkinRejections (rs ss : List Rejection) : Prop where
  left : ∀ r ∈ rs, r.reasonSuffix.IsNote
  right : ∀ s ∈ ss, s.reasonSuffix.IsNote
  bare : (∃ r ∈ rs, r.Bare) ↔ ∃ s ∈ ss, s.Bare

theorem AkinRejections.nil : AkinRejections [] [] :=
  ⟨by simp, by simp, by simp⟩

theorem AkinRejections.cons {r s : Rejection} {rs ss : List Rejection}
    (hreason : r.reason = "got " ↔ s.reason = "got ") (hsuffix : r.reasonSuffix = s.reasonSuffix)
    (hnote : r.reasonSuffix.IsNote) (h : AkinRejections rs ss) :
    AkinRejections (r :: rs) (s :: ss) := by
  refine ⟨List.forall_mem_cons.mpr ⟨hnote, h.left⟩,
    List.forall_mem_cons.mpr ⟨hsuffix ▸ hnote, h.right⟩, ?_⟩
  have hbare : r.Bare ↔ s.Bare := by rw [Rejection.Bare, Rejection.Bare, hreason, hsuffix]
  simp [hbare, h.bare]

/-- Rejections that end with notes make up a reason, or one of them is bare. -/
theorem unionReason_of_notes {rs : List Rejection} (h : ∀ r ∈ rs, r.reasonSuffix.IsNote) :
    (∃ r ∈ rs, r.Bare) ∧ (∃ fault, unionReason rs = .error fault) ∨
      ¬ (∃ r ∈ rs, r.Bare) ∧ ∃ reason, unionReason rs = .ok reason ∧ reason ≠ "got " := by
  have htold : ∀ r ∈ rs, r.Says ∨ r.Bare := fun r hr => Rejection.says_or_bare (h r hr)
  by_cases hbare : ∃ r ∈ rs, r.Bare
  · obtain ⟨r, hr, hr'⟩ := hbare
    exact .inl ⟨⟨r, hr, hr'⟩, unionReason_of_mute
      (fun s hs => (htold s hs).imp_right Rejection.Bare.mute) ⟨r, hr, hr'.mute⟩⟩
  · exact .inr ⟨hbare, exists_unionReason fun r hr =>
      (htold r hr).resolve_right fun hr' => hbare ⟨r, hr, hr'⟩⟩

theorem alike_rejectUnion {c d : Context} (hc : c.Plain) (hd : d.Plain)
    (type : Except Fault String) {rs ss : List Rejection}
    (h : AkinRejections rs ss) :
    Alike c.reasonSuffix d.reasonSuffix (rejectUnion c type rs) (rejectUnion d type ss) := by
  simp only [rejectUnion]
  rcases unionReason_of_notes h.left with ⟨hr, e, he⟩ | ⟨hr, a, ha, hane⟩ <;>
    rcases unionReason_of_notes h.right with ⟨hs, f, hf⟩ | ⟨hs, b, hb, hbne⟩
  · rw [he, hf]
    exact .faulted e f
  · exact absurd (h.bare.mp hr) hs
  · exact absurd (h.bare.mpr hs) hr
  · rw [ha, hb]
    refine (Alike.ofFault type).bind fun type => ?_
    obtain ⟨t, ht⟩ := hc.expected ("union type of (" ++ type ++ ")")
    obtain ⟨u, hu⟩ := hd.expected ("union type of (" ++ type ++ ")")
    rw [ht, hu]
    exact hc.alike_rejectAs hd hc.name hd.name
      ⟨fun h => absurd h hane, fun h => absurd h hbne⟩ rs ss

namespace Schema

variable {s : Schema} {setting : Setting} {c d : Context}

/-- The candidates of a union that are tried in two contexts accept the same value, reject alike, or
fault. -/
theorem parseFirst_cases {candidates : List Schema} (hc : c.Plain) (hd : d.Plain)
    (hcn : c.reasonSuffix = .null) (hdn : d.reasonSuffix = .null)
    (h : ∀ s ∈ candidates, ContextFree (s.parse setting)) (v : Value) :
    (∃ w, parseFirst setting candidates v c = .ok (.ok w) ∧
      parseFirst setting candidates v d = .ok (.ok w)) ∨
    (∃ rs ss, parseFirst setting candidates v c = .ok (.error rs) ∧
      parseFirst setting candidates v d = .ok (.error ss) ∧ AkinRejections rs ss) ∨
    ∃ e f, parseFirst setting candidates v c = .error (.faulted e) ∧
      parseFirst setting candidates v d = .error (.faulted f) := by
  induction candidates with
  | nil => exact .inr (.inl ⟨[], [], rfl, rfl, .nil⟩)
  | cons s candidates ih =>
    obtain ⟨hs, hrest⟩ := List.forall_mem_cons.mp h
    have hfirst := hs hc hd v
    rw [hcn, hdn] at hfirst
    rw [parseFirst, parseFirst]
    generalize s.parse setting v c = x, s.parse setting v d = y at hfirst
    cases hfirst with
    | ok w => exact .inl ⟨w, rfl, rfl⟩
    | faulted e f => exact .inr (.inr ⟨e, f, rfl, rfl⟩)
    | @rejected r r' reason suffix =>
      obtain ⟨hsuffix, hnote⟩ := suffix rfl .null
      cases s.typeText with
      | error fault => exact .inr (.inr ⟨fault, fault, rfl, rfl⟩)
      | ok type =>
        simp only [Outcome.ofFault_ok, Outcome.ok_bind]
        rcases ih hrest with ⟨w, hw, hw'⟩ | ⟨rs, ss, hrs, hss, hakin⟩ | ⟨e, f, he, hf⟩
        · exact .inl ⟨w, by rw [hw]; rfl, by rw [hw']; rfl⟩
        · exact .inr (.inl ⟨r :: rs, r' :: ss, by rw [hrs]; rfl, by rw [hss]; rfl,
            hakin.cons reason hsuffix hnote⟩)
        · exact .inr (.inr ⟨e, f, by rw [he]; rfl, by rw [hf]; rfl⟩)

end Schema

/-! ## Arrays -/

theorem ArrayRule.contextFree_items (rule : ArrayRule) : ContextFree rule.items := by
  intro c d hc hd v
  have ht := hc.expected "array"
  have hu := hd.expected "array"
  simp only [items_eq]
  split
  · exact (alike_checkLength hc hd ht hu _ _ _).bind fun _ => .ok _
  · exact alike_rejectKind hc hd ht hu _

theorem contextFree_onlyItem : ContextFree onlyItem := by
  intro c d hc hd v
  refine (singleRule.contextFree_items hc hd v).bind fun items => ?_
  split
  · exact .ok _
  · exact alike_rejectKind hc hd (hc.expected "array") (hd.expected "array") v

/-! ## Dictionaries -/

theorem alike_parseEntries {p q : Value} {key value key' value' : Value → Outcome Value}
    (hkey : ∀ k, Alike p q (key k) (key' k)) (hvalue : ∀ w, Alike p q (value w) (value' w))
    (entries parsed : List (Value × Value)) :
    Alike p q (parseEntries key value entries parsed)
      (parseEntries key' value' entries parsed) := by
  induction entries generalizing parsed with
  | nil => exact .ok parsed
  | cons entry entries ih =>
    rw [parseEntries, parseEntries]
    refine (hkey entry.1).bind fun k => (hvalue entry.2).bind fun w => ?_
    split
    · exact ih _
    · exact .faulted _ _

namespace Schema

/-! ## Schemas -/

variable {s : Schema} {setting : Setting} {c d : Context}

/-- The nodes that are put together from what is at hand: no rules of a user, keys of text, and
members of enumerations that can be written. -/
def Packaged : Schema → Prop
  | .leaf atom _ => atom.Writable
  | .object fields _ => ∀ field ∈ fields, ∃ key, field.1 = .text key
  | .custom _ => False
  | .array .. | .single _ | .nullable .. | .optional _ | .union .. | .dict .. | .plain _ => True

/-- A field is parsed in a context of its own, which is known by its name only. -/
theorem alike_parseFields {fields : List (Value × Schema)} (hc : c.Plain) (hd : d.Plain)
    (hkeys : ∀ field ∈ fields, ∃ key, field.1 = .text key)
    (h : ∀ field ∈ fields, ContextFree (field.2.parse setting)) (entries : List (Value × Value)) :
    Alike c.reasonSuffix d.reasonSuffix (parseFields setting fields entries c)
      (parseFields setting fields entries d) := by
  induction fields with
  | nil => exact .ok []
  | cons field fields ih =>
    obtain ⟨hfield, hrest⟩ := List.forall_mem_cons.mp h
    obtain ⟨⟨key, hkey⟩, hlater⟩ := List.forall_mem_cons.mp hkeys
    obtain ⟨_, s⟩ := field
    obtain rfl : _ = Value.text key := hkey
    have ih := ih hlater hrest
    rw [parseFields, parseFields]
    cases Presence.of s.tag (Entries.get? (.text key) entries) with
    | omitted => exact ih
    | known w => exact ih.bind fun rest => .ok _
    | given v =>
      refine (Alike.ofFault s.require).bind fun _ => ?_
      obtain ⟨c', hc', hcp⟩ := hc.child key
      obtain ⟨d', hd', hdp⟩ := hd.child key
      simp only [hc', hd', Outcome.ofFault_ok, Outcome.ok_bind]
      refine Alike.bind (alike_of_null ?_) fun w => ih.bind fun rest => .ok _
      have := hfield hcp hdp v
      rwa [Context.suffix_child hc', Context.suffix_child hd'] at this
    | missing =>
      exact (Alike.ofFault _).bind fun name =>
        hc.alike_reject hd (hc.expected "object") (hd.expected "object") _

section Nodes

variable {samples : Option SampleOptions}

theorem contextFree_object {fields : List (Value × Schema)}
    (hkeys : ∀ field ∈ fields, ∃ key, field.1 = .text key)
    (h : ∀ field ∈ fields, ContextFree (field.2.parse setting)) :
    ContextFree ((object fields samples).parse setting) := by
  intro c d hc hd v
  cases v with
  | dict entries => exact (alike_parseFields hc hd hkeys h entries).map _
  | _ => exact alike_rejectKind hc hd (hc.expected "object") (hd.expected "object") _

theorem contextFree_array {item : Schema} (rule : ArrayRule)
    (h : ContextFree (item.parse setting)) :
    ContextFree ((array item rule samples).parse setting) := by
  intro c d hc hd v
  obtain ⟨c', hc', hcp⟩ := hc.item
  obtain ⟨d', hd', hdp⟩ := hd.item
  rw [parse, parse, hc', hd']
  refine (rule.contextFree_items hc hd v).bind fun items => ?_
  refine hc.alike_of_join (by simp) (Context.suffix_item hc') (Context.suffix_item hd') ?_
  exact (Alike.mapM (fun e => h hcp hdp e) items).map _

theorem contextFree_single {item : Schema} (h : ContextFree (item.parse setting)) :
    ContextFree ((single item).parse setting) := by
  intro c d hc hd v
  have hc := hc.overriding_expected "singletonArray"
  have hd := hd.overriding_expected "singletonArray"
  obtain ⟨c', hc', hcp⟩ := hc.item
  obtain ⟨d', hd', hdp⟩ := hd.item
  rw [parse, parse, hc', hd']
  refine Alike.bind (contextFree_onlyItem hc hd v) fun e => ?_
  refine hc.alike_of_join (by simp) (Context.suffix_item hc') (Context.suffix_item hd') ?_
  exact h hcp hdp e

theorem contextFree_nullable {inner : Schema} (h : ContextFree (inner.parse setting)) :
    ContextFree ((nullable inner samples).parse setting) := by
  intro c d hc hd v
  obtain ⟨c', hc', hcp⟩ := hc.nonNull
  obtain ⟨d', hd', hdp⟩ := hd.nonNull
  have hinner := h hcp hdp v
  rw [Context.suffix_nonNull hc', Context.suffix_nonNull hd'] at hinner
  cases v with
  | null => exact .ok Value.null
  | _ =>
    simp only [parse, hc', hd']
    exact (Alike.ofFault inner.require).bind fun _ => hinner

theorem contextFree_union {candidates : List Schema}
    (h : ∀ s ∈ candidates, ContextFree (s.parse setting)) :
    ContextFree ((union candidates samples).parse setting) := by
  intro c d hc hd v
  rw [parse, parse]
  rcases parseFirst_cases hc.candidate hd.candidate rfl rfl h v with
    ⟨w, hw, hw'⟩ | ⟨rs, ss, hrs, hss, hakin⟩ | ⟨e, f, he, hf⟩
  · rw [hw, hw']
    exact .ok w
  · rw [hrs, hss]
    exact alike_rejectUnion hc hd _ hakin
  · rw [he, hf]
    exact .faulted e f

theorem contextFree_dict {key value : Schema} (hkey : ContextFree (key.parse setting))
    (hvalue : ContextFree (value.parse setting)) :
    ContextFree ((dict key value samples).parse setting) := by
  intro c d hc hd v
  have ht := hc.isPhrase_expected "dict/record"
  have hu := hd.isPhrase_expected "dict/record"
  obtain ⟨ck, hck, hckp⟩ := hc.entrySide ht "in key"
  obtain ⟨dk, hdk, hdkp⟩ := hd.entrySide hu "in key"
  obtain ⟨cv, hcv, hcvp⟩ := hc.entrySide ht "in value"
  obtain ⟨dv, hdv, hdvp⟩ := hd.entrySide hu "in value"
  cases v with
  | dict entries =>
    simp only [parse, hck, hdk, hcv, hdv, Outcome.ofFault_ok, Outcome.ok_bind]
    refine Alike.map _ (alike_parseEntries (fun k => ?_) (fun w => ?_) entries [])
    · exact hc.alike_of_join (by simp) (Context.suffix_entrySide hck)
        (Context.suffix_entrySide hdk) (hkey hckp hdkp k)
    · exact hc.alike_of_join (by simp) (Context.suffix_entrySide hcv)
        (Context.suffix_entrySide hdv) (hvalue hcvp hdvp w)
  | _ =>
    exact alike_rejectKind (hc.overriding ht) (hd.overriding hu) (hc.expected _)
      (hd.expected _) _

end Nodes

/-- A schema has alike outcomes in all contexts that hold text or nothing. -/
theorem contextFree_parse (hs : s.Every Packaged) (setting : Setting) :
    ContextFree (s.parse setting) := by
  induction hs with
  | @node s here below ih =>
    cases s with
    | leaf atom samples => exact atom.contextFree_parse here setting
    | custom rule => exact here.elim
    | object fields samples =>
      exact contextFree_object here fun field hfield => ih _ (mem_parts_of_mem_fields hfield)
    | array item rule samples => exact contextFree_array rule (ih item (by simp [parts]))
    | single item => exact contextFree_single (ih item (by simp [parts]))
    | nullable inner samples => exact contextFree_nullable (ih inner (by simp [parts]))
    | optional inner => exact ih inner (by simp [parts])
    | union candidates samples => exact contextFree_union ih
    | dict key value samples =>
      exact contextFree_dict (ih key (by simp [parts])) (ih value (by simp [parts]))
    | plain v => exact fun c d _ _ v => .faulted _ _

/-- The context of an input only has an effect on the words of its rejection: what comes out in one
context that holds text or nothing comes out in any other. -/
theorem parse_eq_ok_of_plain (hs : s.Every Packaged) (hc : c.Plain) (hd : d.Plain) (v w : Value) :
    s.parse setting v c = .ok w ↔ s.parse setting v d = .ok w :=
  (contextFree_parse hs setting hc hd v).eq_ok_iff w

/-- The form of a drawing: an ink or none, and marks that are on or off or colours. -/
def drawingForm : Schema :=
  .object
    [(.text "ink", .nullable (.leaf .color none) none),
     (.text "marks",
      .array (.union [.leaf .color none, .leaf (.boolean none) none] none) {} none)] none

/-- A drawing as a form sends it, and as it is kept. -/
def drawingInput : Value :=
  .dict [(.text "marks", .list [.text "on", .text "#c0ffee"]), (.text "ink", .null)]

@[inherit_doc drawingInput]
def drawing : Value :=
  .dict [(.text "ink", .null), (.text "marks", .list [.bool true, .text "#c0ffee"])]

/-- A context with words in each of its fields. -/
def wordyContext : Context where
  name := .text "drawing"
  typePrefix := .text "latest"
  reasonSuffix := .text "in album"
  overrideType := .text "picture"

theorem parse_eq_ok_of_plain_drawing :
    drawingForm.parse "en" drawingInput .root = .ok drawing ∧
      drawingForm.parse "en" drawingInput wordyContext = .ok drawing := by
  have hform : drawingForm.Every Packaged := by
    simp [drawingForm, Packaged, Leaf.Writable]
  have hwordy : wordyContext.Plain := ⟨.text _, .text _, .text _, .text _⟩
  have hparse : drawingForm.parse "en" drawingInput .root = .ok drawing := by rfl
  exact ⟨hparse, (parse_eq_ok_of_plain hform Context.plain_root hwordy _ _).mp hparse⟩

end Schema

end Intake
