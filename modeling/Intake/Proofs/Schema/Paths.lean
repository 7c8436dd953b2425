import Intake.Proofs.Faults.Schema
import Intake.Proofs.Rule.Named

/-!
# The paths to rejections

A rejection comes from one node of a schema, and a client has to find that node by the name in the
rejection.  A path to the node goes from call to call, as the parse does, and ends at a union at the
latest.  Only objects add to the name, and what they add is the key of the field; so the name of the
node is the name of the whole input with the keys on the path behind it.

## Main definitions

* `Schema.Locatable` — the nodes whose rejections can be located.
* `Passes`, `Leads` — the steps of a path and the paths, with the keys on them.
* `Call.Rejects` — a call that rejects its input by itself.
* `Call.Points` — how the rejection by a call tells a path.

## Main statements

* `Passes.located`, `Leads.located` — the names along a path.
* `Call.exists_leads_of_rejected` — the path to the node that rejects.
* `Schema.exists_node_of_rejected` — the name in the rejection is the path to that node.
-/

namespace Intake

open Outcome (bind_eq_ok bind_eq_error map_eq_error mapM_eq_error)
open Outcome (rejectsIn_ok rejectsIn_ofFault)

/-! ## Dotted names -/

section DottedNames

variable {name : Value} {key : String}

theorem nameParts_ne_empty : ∀ part ∈ nameParts name, part ≠ "" := by
  intro part hpart
  unfold nameParts at hpart
  split at hpart
  · split at hpart
    · cases hpart
    · rename_i s hs
      rw [List.mem_singleton.mp hpart]
      rintro rfl
      exact hs rfl
  · cases hpart

/-- Without keys the name is that of the whole. -/
theorem dottedName_nil (hname : name.IsPhrase) (hne : name ≠ .text "") :
    dottedName name [] = name := by
  cases hname with
  | null => rfl
  | text s =>
    have hs : s.isEmpty = false := by
      rw [String.isEmpty_eq_false_iff]
      rintro rfl
      exact hne rfl
    simp [dottedName, nameParts, hs, joinWith]

/-- The name of a field is text that is not empty. -/
theorem exists_dottedName_singleton (name : Value) (hkey : key ≠ "") :
    ∃ s, s ≠ "" ∧ s = joinWith "." (nameParts name ++ [key]) ∧ dottedName name [key] = .text s := by
  have hparts : nameParts name ++ [key] ≠ [] := by simp
  refine ⟨_, joinWith_ne_empty hparts ?_, rfl, dottedName_of_ne_nil hparts⟩
  rw [List.forall_mem_append, List.forall_mem_singleton]
  exact ⟨nameParts_ne_empty, hkey⟩

/-- The keys below a field come behind its own. -/
theorem dottedName_dottedName (hkey : key ≠ "") (keys : List String) :
    dottedName (dottedName name [key]) keys = dottedName name (key :: keys) := by
  obtain ⟨s, hs, hjoined, hname⟩ := exists_dottedName_singleton name hkey
  have hparts : nameParts (.text s) = [s] := by
    rw [nameParts, String.isEmpty_eq_false_iff.mpr hs]
    rfl
  have hjoin : joinWith "." (s :: keys) = joinWith "." (nameParts name ++ [key] ++ keys) := by
    rw [hjoined]
    exact joinWith_append_joinWith (by simp) [] keys
  calc dottedName (dottedName name [key]) keys
      = .text (joinWith "." (s :: keys)) := by
        rw [hname, dottedName_of_ne_nil (by simp [hparts]), hparts, List.singleton_append]
    _ = .text (joinWith "." (nameParts name ++ [key] ++ keys)) := by rw [hjoin]
    _ = dottedName name (key :: keys) := by
        rw [dottedName_of_ne_nil (by simp), List.append_assoc, List.singleton_append]

end DottedNames

/-- A path in the words of an enumeration. -/
def pathClause (path : Value) : String :=
  match path with
  | .text p => " of " ++ Text.quoteJson p
  | _ => ""

/-! ## Contexts of parts -/

namespace Context

variable {ctx inner : Context} {type : Value} {side : String}

theorem name_of_item (h : ctx.item = .ok inner) : inner.name = ctx.name := by
  obtain ⟨before, -, h⟩ := bind_eq_ok.mp h
  obtain ⟨after, -, h⟩ := bind_eq_ok.mp h
  cases h
  rfl

theorem name_of_nonNull (h : ctx.nonNull = .ok inner) : inner.name = ctx.name := by
  obtain ⟨before, -, h⟩ := bind_eq_ok.mp h
  cases h
  rfl

theorem name_of_entrySide (h : ctx.entrySide type side = .ok inner) : inner.name = ctx.name := by
  obtain ⟨after, -, h⟩ := bind_eq_ok.mp h
  cases h
  rfl

end Context

/-! ## Nodes -/

namespace Schema

variable {zone : Calendar.Zone} {s : Schema}

/-- The nodes whose rejections can be located: leaves whose bounds hold, objects whose keys are text
that is not empty, and all that passes an input on. -/
def Locatable (zone : Calendar.Zone) : Schema → Prop
  | .leaf atom _ => atom.BoundsHold zone
  | .object fields _ => ∀ field ∈ fields, ∃ key, field.1 = .text key ∧ key ≠ ""
  | .custom _ | .plain _ => False
  | .array .. | .single _ | .nullable .. | .optional _ | .union .. | .dict .. => True

/-- The nodes that hand an input on, or parts of it, under the same name. -/
def KeepsName : Schema → Prop
  | .array .. | .single _ | .nullable .. | .optional _ | .dict .. => True
  | .leaf .. | .custom _ | .object .. | .union .. | .plain _ => False

theorem require_of_locatable (h : s.Locatable zone) : s.require = .ok () := by
  cases s with
  | plain v => exact h.elim
  | _ => rfl

theorem fields_of_locatable {fields : List (Value × Schema)} {samples : Option SampleOptions}
    (h : (object fields samples).Every (Locatable zone)) :
    ∀ field ∈ fields, (∃ key, field.1 = .text key) ∧ field.2.require = .ok () := by
  intro field hfield
  obtain ⟨key, hkey, -⟩ := h.here field hfield
  exact ⟨⟨key, hkey⟩, require_of_locatable (h.of_mem (mem_parts_of_mem_fields hfield)).here⟩

end Schema

/-! ## Steps -/

/-- A part that has the same name has a plain context as well. -/
theorem Calls.context_of_keepsName {setting : Setting} {c d : Call} (h : Calls setting c d)
    (hkeeps : c.schema.KeepsName) (hc : c.context.Plain) :
    d.context.Plain ∧ d.context.name = c.context.name := by
  cases h with
  | field => exact hkeeps.elim
  | item _ context => exact ⟨Context.Plain.of_item hc context, Context.name_of_item context⟩
  | only _ context =>
    exact ⟨(Context.Plain.overriding_expected hc "singletonArray").of_item context,
      Context.name_of_item context⟩
  | nonNull _ context =>
    exact ⟨Context.Plain.of_nonNull hc context, Context.name_of_nonNull context⟩
  | wrapped => exact ⟨hc, rfl⟩
  | candidate => exact hkeeps.elim
  | key keyContext_eq =>
    exact ⟨Context.Plain.of_entrySide hc keyContext_eq, Context.name_of_entrySide keyContext_eq⟩
  | value _ valueContext_eq =>
    exact ⟨Context.Plain.of_entrySide hc valueContext_eq,
      Context.name_of_entrySide valueContext_eq⟩

/-- A call of a schema whose rejections can be located, in a context of text with no empty name. -/
structure Call.Located (zone : Calendar.Zone) (c : Call) : Prop where
  schema : c.schema.Every (Schema.Locatable zone)
  context : c.context.Plain
  name : c.context.name ≠ .text ""

/-- A step of a path, with the keys that it adds: from an object to a field, or from a node to a
part that has the same name.  No step leads out of a union. -/
inductive Passes (setting : Setting) : Call → List String → Call → Prop
  | field {before after samples entries ctx kept key part v inner}
      (passed : Schema.parseFields setting before entries ctx = .ok kept)
      (given : Presence.of part.tag (Entries.get? (.text key) entries) = .given v)
      (child : ctx.child (.text key) = .ok inner) :
      Passes setting ⟨.object (before ++ (.text key, part) :: after) samples, .dict entries, ctx⟩
        [key] ⟨part, v, inner⟩
  | part {c d : Call} (call : Calls setting c d) (keeps : c.schema.KeepsName) :
      Passes setting c [] d

namespace Passes

variable {setting : Setting} {c d : Call} {keys : List String}

theorem calls (h : Passes setting c keys d) : Calls setting c d := by
  cases h with
  | field passed given child => exact .field passed given child
  | part call _ => exact call

/-- A step leads to a call whose rejections can be located, and its keys come behind the name. -/
theorem located (h : Passes setting c keys d) (hc : c.Located setting.zone) :
    d.Located setting.zone ∧ d.context.name = dottedName c.context.name keys := by
  have hpart := hc.schema.of_mem h.calls.mem_parts
  cases h with
  | @field before after samples entries ctx kept key part v inner passed given child =>
    obtain ⟨_, hkey, hne⟩ := hc.schema.here (.text key, part) (by simp)
    cases hkey
    have hctx : ctx.Plain := hc.context
    cases (hctx.child_eq key).symm.trans child
    obtain ⟨s, hs, -, hname⟩ := exists_dottedName_singleton ctx.name hne
    refine ⟨⟨hpart, Context.plain_named ?_, ?_⟩, rfl⟩
    · rw [hname]
      exact .text s
    · change dottedName ctx.name [key] ≠ .text ""
      rw [hname]
      simpa using hs
  | part call keeps =>
    obtain ⟨hplain, hname⟩ := call.context_of_keepsName keeps hc.context
    refine ⟨⟨hpart, hplain, hname ▸ hc.name⟩, ?_⟩
    rw [hname, dottedName_nil hc.context.name hc.name]

end Passes

/-! ## Paths -/

/-- A path from a call to another, with the keys on it. -/
inductive Leads (setting : Setting) : Call → List String → Call → Prop
  | here (c : Call) : Leads setting c [] c
  | step {c d e : Call} {keys rest : List String} (passes : Passes setting c keys d)
      (leads : Leads setting d rest e) : Leads setting c (keys ++ rest) e

/-- The keys of two steps after each other. -/
theorem Passes.dottedName_append {setting : Setting} {c d : Call} {keys : List String}
    (h : Passes setting c keys d) (hc : c.Located setting.zone) (rest : List String) :
    dottedName (dottedName c.context.name keys) rest =
      dottedName c.context.name (keys ++ rest) := by
  cases h with
  | @field before after samples entries ctx kept key part v inner =>
    obtain ⟨_, hkey, hne⟩ := hc.schema.here (.text key, part) (by simp)
    cases hkey
    exact dottedName_dottedName hne rest
  | part => rw [dottedName_nil hc.context.name hc.name, List.nil_append]

/-- The name at the end of a path is the one at its start with the keys behind it. -/
theorem Leads.located {setting : Setting} {c d : Call} {keys : List String}
    (h : Leads setting c keys d) (hc : c.Located setting.zone) :
    d.Located setting.zone ∧ d.context.name = dottedName c.context.name keys := by
  induction h with
  | here c => exact ⟨hc, (dottedName_nil hc.context.name hc.name).symm⟩
  | step passes _ ih =>
    obtain ⟨hnext, hname⟩ := passes.located hc
    obtain ⟨hlast, hlastName⟩ := ih hnext
    refine ⟨hlast, ?_⟩
    rw [hlastName, hname, passes.dottedName_append hc]

/-! ## Where rejections come from -/

namespace Calls

variable {setting : Setting} {c d : Call}

/-- What is called by a node other than a union ends the node if it ends without a value. -/
theorem error (h : Calls setting c d) (hc : c.Located setting.zone)
    (hunion : ∀ candidates samples, c.schema ≠ .union candidates samples) {e : Failure}
    (he : d.outcome setting = .error e) : c.outcome setting = .error e := by
  obtain ⟨hschema, hctx, -⟩ := hc
  cases h with
  | field passed given child =>
    refine map_eq_error.mpr ?_
    exact (Schema.parseFields_eq_error hctx (Schema.fields_of_locatable hschema)).mpr
      ⟨_, _, _, _, rfl, passed, .inl ⟨_, _, given, child, he⟩⟩
  | item items context passed =>
    refine bind_eq_error.mpr (.inr ⟨_, items, ?_⟩)
    rw [context]
    exact map_eq_error.mpr (mapM_eq_error.mpr ⟨_, _, _, _, rfl, passed, he⟩)
  | only found context =>
    refine bind_eq_error.mpr (.inr ⟨_, found, ?_⟩)
    rw [context]
    exact he
  | @nonNull part samples v ctx inner given context =>
    have hpart : part.Every (Schema.Locatable setting.zone) :=
      Schema.Every.of_mem hschema (by simp [Schema.parts])
    have hrequire := Schema.require_of_locatable hpart.here
    have he : part.parse setting v inner = .error e := he
    cases v with
    | null => exact absurd rfl given
    | _ => simp [Call.outcome, Schema.parse, hrequire, context, he]
  | wrapped => exact he
  | candidate => exact absurd rfl (hunion _ _)
  | key hkey hvalue passed =>
    simp only [Call.outcome, Schema.parse, hkey, hvalue, Outcome.ofFault_ok, Outcome.ok_bind,
      map_eq_error]
    exact parseEntries_eq_error_iff.mpr ⟨_, _, _, _, rfl, passed, .inl he⟩
  | value hkey hvalue passed parsed =>
    simp only [Call.outcome, Schema.parse, hkey, hvalue, Outcome.ofFault_ok, Outcome.ok_bind,
      map_eq_error]
    exact parseEntries_eq_error_iff.mpr ⟨_, _, _, _, rfl, passed, .inr ⟨_, parsed, .inl he⟩⟩

/-- Each call of a node other than a union is a step of a path. -/
theorem exists_passes (h : Calls setting c d) (hc : c.Located setting.zone)
    (hunion : ∀ candidates samples, c.schema ≠ .union candidates samples) :
    ∃ keys, Passes setting c keys d := by
  cases h with
  | @field before after samples entries ctx kept key part v inner passed given child =>
    obtain ⟨key, rfl, -⟩ := hc.schema.here (key, part) (by simp)
    exact ⟨[key], .field passed given child⟩
  | item items context passed => exact ⟨[], .part (.item items context passed) trivial⟩
  | only found context => exact ⟨[], .part (.only found context) trivial⟩
  | nonNull given context => exact ⟨[], .part (.nonNull given context) trivial⟩
  | wrapped => exact ⟨[], .part .wrapped trivial⟩
  | candidate => exact absurd rfl (hunion _ _)
  | key hkey hvalue passed => exact ⟨[], .part (.key hkey hvalue passed) trivial⟩
  | value hkey hvalue passed parsed => exact ⟨[], .part (.value hkey hvalue passed parsed) trivial⟩

end Calls

/-- No step leads out of a union. -/
theorem Passes.ne_union {setting : Setting} {c d : Call} {keys : List String}
    (h : Passes setting c keys d) (candidates : List Schema) (samples : Option SampleOptions) :
    c.schema ≠ .union candidates samples := by
  cases h with
  | field => simp
  | part _ keeps =>
    intro heq
    rw [heq] at keeps
    exact keeps

/-- A path hands on the failure at its end. -/
theorem Leads.error {setting : Setting} {c d : Call} {keys : List String} {e : Failure}
    (h : Leads setting c keys d) (hc : c.Located setting.zone) (he : d.outcome setting = .error e) :
    c.outcome setting = .error e := by
  induction h with
  | here c => exact he
  | step passes _ ih =>
    exact passes.calls.error hc passes.ne_union (ih (passes.located hc).1 he)

/-- A call that rejects its input by itself: one of a union, or one to which all that it calls
gives a value. -/
structure Call.Rejects (setting : Setting) (r : Rejection) (c : Call) : Prop where
  outcome : c.outcome setting = .error (.rejected r)
  itself : (∃ candidates samples, c.schema = .union candidates samples) ∨
    ∀ d, Calls setting c d → ∃ w, d.outcome setting = .ok w

namespace Call

variable {setting : Setting} {c : Call} {r : Rejection}

/-- A call that rejects its input does so by itself, or a step leads to a call that does. -/
theorem rejects_or_exists_passes (hc : c.Located setting.zone)
    (h : c.outcome setting = .error (.rejected r)) :
    c.Rejects setting r ∨
      ∃ keys d, Passes setting c keys d ∧ d.outcome setting = .error (.rejected r) := by
  by_cases hunion : ∃ candidates samples, c.schema = .union candidates samples
  · exact .inl ⟨h, .inl hunion⟩
  · have hunion : ∀ candidates samples, c.schema ≠ .union candidates samples :=
      fun candidates samples heq => hunion ⟨candidates, samples, heq⟩
    by_cases hcall : ∃ d, Calls setting c d ∧ d.outcome setting = .error (.rejected r)
    · obtain ⟨d, hcall, hd⟩ := hcall
      obtain ⟨keys, hpasses⟩ := hcall.exists_passes hc hunion
      exact .inr ⟨keys, d, hpasses, hd⟩
    · refine .inl ⟨h, .inr fun d hd => ?_⟩
      cases hout : d.outcome setting with
      | ok w => exact ⟨w, rfl⟩
      | error e =>
        -- the call would end with the same failure, which is the rejection
        cases (hd.error hc hunion hout).symm.trans h
        exact absurd ⟨d, hd, hout⟩ hcall

/-- A rejection comes from a call at the end of a path: the induction goes down the schema. -/
theorem exists_leads_of_rejected (hc : c.Located setting.zone)
    (h : c.outcome setting = .error (.rejected r)) :
    ∃ keys d, Leads setting c keys d ∧ d.Rejects setting r := by
  obtain ⟨s, v, ctx⟩ := c
  have hschema : s.Every (Schema.Locatable setting.zone) := hc.schema
  induction hschema generalizing v ctx with
  | @node s here below ih =>
    rcases rejects_or_exists_passes hc h with hrejects | ⟨keys, d, hpasses, hd⟩
    · exact ⟨[], _, .here _, hrejects⟩
    · obtain ⟨rest, e, hleads, hrejects⟩ := ih d.schema hpasses.calls.mem_parts d.input d.context
        (hpasses.located hc).1 hd
      exact ⟨keys ++ rest, e, .step hpasses hleads, hrejects⟩

end Call

/-! ## The names of nodes -/

section Items

variable {ctx : Context}

theorem ArrayRule.rejectsIn_items (rule : ArrayRule) (v : Value) (ctx : Context) :
    (rule.items v ctx).RejectsIn ctx := by
  rw [items_eq]
  split
  · exact rejectsFor_checkLength.rejectsIn.bind fun _ => rejectsIn_ok _
  · exact (Context.rejectsFor_rejectKind _ _).rejectsIn

theorem rejectsIn_onlyItem (v : Value) (ctx : Context) : (onlyItem v ctx).RejectsIn ctx := by
  refine (singleRule.rejectsIn_items v ctx).bind fun items => ?_
  split
  · exact rejectsIn_ok _
  · exact (Context.rejectsFor_rejectKind _ _).rejectsIn

/-- A union rejects an input in its context, whatever its candidates say. -/
theorem rejectsIn_rejectUnion (type : Except Fault String) (rs : List Rejection) :
    (rejectUnion ctx type rs).RejectsIn ctx :=
  (rejectsIn_ofFault _).bind fun _ =>
    (rejectsIn_ofFault _).bind fun _ => (Context.rejectsFor_reject _ _ _).rejectsIn

end Items

/-- What an enumeration expects: the type in force, or its members behind the path. -/
theorem memberType_eq_ok {ctx : Context} {members : List Value} {type : String}
    (hname : ctx.name.IsPhrase) (hne : ctx.name ≠ .text "")
    (h : memberType members ctx = .ok (.text type)) :
    if ctx.overrideType.isTruthy then ctx.overrideType = .text type
    else ∃ text, (Value.list members).json = .ok text ∧
      type = "enums value" ++ pathClause ctx.name ++ ", expect " ++ text := by
  unfold memberType at h
  split at h
  · rename_i htruthy
    rw [if_pos htruthy]
    exact Except.ok.inj h
  · rename_i hplain
    rw [if_neg hplain]
    have hmembers : (do
        let text ← (Value.list members).json
        return Value.text ("enums value" ++ pathClause ctx.name ++ ", expect " ++ text)) =
          (.ok (.text type) : Except Fault Value) := by
      generalize ctx.name = name at hname hne h ⊢
      cases hname with
      | null => exact h
      | text s =>
        have hs : s ≠ "" := fun heq => hne (heq ▸ rfl)
        simpa [Value.isTruthy, hs, Value.json, pathClause] using h
    obtain ⟨text, htext, heq⟩ := bind_eq_ok.mp hmembers
    cases heq
    exact ⟨text, htext, rfl⟩

namespace Call

variable {setting : Setting} {c : Call} {r : Rejection}

/-! ### What a node rejects, and what is called rejects -/

/-- A call rejects in its context, or it hands on a rejection by something that it calls. -/
def RejectsOrCalls (setting : Setting) (c : Call) : Prop :=
  (c.outcome setting).RejectsWith fun r =>
    r.Within c.context ∨ ∃ d, Calls setting c d ∧ d.outcome setting = .error (.rejected r)

section Nodes

variable {v : Value} {ctx : Context} {samples : Option SampleOptions}

theorem rejectsOrCalls_object {fields : List (Value × Schema)} (hctx : ctx.Plain)
    (hfields : ∀ field ∈ fields, (∃ key, field.1 = .text key) ∧ field.2.require = .ok ()) :
    RejectsOrCalls setting ⟨.object fields samples, v, ctx⟩ := by
  intro r hr
  cases v with
  | dict entries =>
    obtain ⟨before, field, after, kept, rfl, passed, hfails⟩ :=
      (Schema.parseFields_eq_error hctx hfields).mp (map_eq_error.mp hr)
    rcases hfails with ⟨w, inner, given, child, hd⟩ | ⟨-, name, -, hmissing⟩
    · exact .inr ⟨_, .field passed given child, hd⟩
    · exact .inl ((Context.rejectsFor_reject _ _ _).rejectsIn r hmissing)
  | _ => exact .inl ((Context.rejectsFor_rejectKind _ _).rejectsIn r hr)

theorem rejectsOrCalls_array {item : Schema} {rule : ArrayRule} (hctx : ctx.Plain) :
    RejectsOrCalls setting ⟨.array item rule samples, v, ctx⟩ := by
  intro r hr
  obtain ⟨inner, hinner, -⟩ := hctx.item
  rcases bind_eq_error.mp hr with hr | ⟨items, hitems, hr⟩
  · exact .inl (rule.rejectsIn_items v ctx r hr)
  · rw [hinner, Outcome.ofFault_ok, Outcome.ok_bind, map_eq_error, mapM_eq_error] at hr
    obtain ⟨before, e, after, kept, rfl, hkept, hd⟩ := hr
    exact .inr ⟨_, .item hitems hinner hkept, hd⟩

theorem rejectsOrCalls_single {item : Schema} (hctx : ctx.Plain) :
    RejectsOrCalls setting ⟨.single item, v, ctx⟩ := by
  intro r hr
  obtain ⟨inner, hinner, -⟩ := (hctx.overriding_expected "singletonArray").item
  have honly : (onlyItem v (ctx.overriding (ctx.expected "singletonArray"))).RejectsIn ctx :=
    (rejectsIn_onlyItem v _).of_overriding
  rcases bind_eq_error.mp hr with hr | ⟨e, he, hr⟩
  · exact .inl (honly r hr)
  · rw [hinner] at hr
    exact .inr ⟨_, .only he hinner, hr⟩

theorem rejectsOrCalls_nullable {part : Schema} (hctx : ctx.Plain)
    (hrequire : part.require = .ok ()) :
    RejectsOrCalls setting ⟨.nullable part samples, v, ctx⟩ := by
  intro r hr
  obtain ⟨inner, hinner, -⟩ := hctx.nonNull
  by_cases hnull : v = .null
  · subst hnull
    cases hr
  · refine .inr ⟨_, .nonNull hnull hinner, ?_⟩
    rwa [Call.outcome, Schema.parse_nullable_of_ne_null hnull hrequire hinner] at hr

/-- A union puts a rejection of its own together from those of its candidates. -/
theorem rejectsIn_union {candidates : List Schema} :
    (Call.outcome setting ⟨.union candidates samples, v, ctx⟩).RejectsIn ctx := by
  intro r hr
  rcases bind_eq_error.mp hr with hr | ⟨first, hfirst, hr⟩
  · exact absurd hr Schema.parseFirst_ne_rejected
  · cases first with
    | ok w => cases hr
    | error rs => exact rejectsIn_rejectUnion _ rs r hr

theorem rejectsOrCalls_dict {key value : Schema} (hctx : ctx.Plain) :
    RejectsOrCalls setting ⟨.dict key value samples, v, ctx⟩ := by
  intro r hr
  have htype := hctx.isPhrase_expected "dict/record"
  obtain ⟨keyContext, hkey, -⟩ := hctx.entrySide htype "in key"
  obtain ⟨valueContext, hvalue, -⟩ := hctx.entrySide htype "in value"
  have hkind : ∀ w, ((ctx.overriding (ctx.expected "dict/record")).rejectKind
      (ctx.expected "dict/record") w : Outcome Value).RejectsIn ctx := fun w =>
    (Context.rejectsFor_rejectKind _ w).rejectsIn.of_overriding
  cases v with
  | dict entries =>
    simp only [Call.outcome, Schema.parse, hkey, hvalue, Outcome.ofFault_ok, Outcome.ok_bind] at hr
    obtain ⟨before, entry, after, kept, rfl, passed, hfails⟩ :=
      parseEntries_eq_error_iff.mp (map_eq_error.mp hr)
    rcases hfails with hd | ⟨k, hk, hd | ⟨-, -, hfault⟩⟩
    · exact .inr ⟨_, .key hkey hvalue passed, hd⟩
    · exact .inr ⟨_, .value hkey hvalue passed hk, hd⟩
    · cases hfault
  | _ => exact .inl (hkind _ r hr)

end Nodes

/-- A node rejects in its context, or hands on what it calls; only an enumeration rejects under no
name. -/
theorem rejectsOrCalls (hc : c.Located setting.zone)
    (hvalues : ∀ members nonempty samples, c.schema ≠ .leaf (.values members nonempty) samples) :
    c.RejectsOrCalls setting := by
  obtain ⟨s, v, ctx⟩ := c
  obtain ⟨hschema, hctx, -⟩ := hc
  cases s with
  | leaf atom samples =>
    exact fun r hr => .inl <| Leaf.rejectsIn_parse hschema.here (fun members nonempty heq =>
      hvalues members nonempty samples (heq ▸ rfl)) v ctx r hr
  | custom rule => exact hschema.here.elim
  | object fields samples => exact rejectsOrCalls_object hctx (Schema.fields_of_locatable hschema)
  | array item rule samples => exact rejectsOrCalls_array hctx
  | single item => exact rejectsOrCalls_single hctx
  | nullable part samples =>
    have hpart : part.Every (Schema.Locatable setting.zone) :=
      Schema.Every.of_mem hschema (by simp [Schema.parts])
    exact rejectsOrCalls_nullable hctx (Schema.require_of_locatable hpart.here)
  | optional part => exact fun r hr => .inr ⟨_, .wrapped, hr⟩
  | union candidates samples => exact fun r hr => .inl (rejectsIn_union r hr)
  | dict key value samples => exact rejectsOrCalls_dict hctx
  | plain v => exact hschema.here.elim

/-- A node that rejects its input by itself does so in its context, unless it is an enumeration. -/
theorem Rejects.within (h : c.Rejects setting r) (hc : c.Located setting.zone)
    (hvalues : ∀ members nonempty samples, c.schema ≠ .leaf (.values members nonempty) samples) :
    r.Within c.context := by
  rcases h.itself with ⟨candidates, samples, hunion⟩ | hgiven
  · obtain ⟨s, v, ctx⟩ := c
    obtain rfl : s = _ := hunion
    exact rejectsIn_union r h.outcome
  · rcases rejectsOrCalls hc hvalues r h.outcome with hwithin | ⟨d, hcall, hd⟩
    · exact hwithin
    · obtain ⟨w, hw⟩ := hgiven d hcall
      cases hw.symm.trans hd

/-- How the rejection by a call tells a path: it goes by it, or it is one by an enumeration, which
has no name and quotes the path in what it expects, unless another type is in force. -/
def Points (path : Value) (r : Rejection) (c : Call) : Prop :=
  match c.schema with
  | .leaf (.values members _) _ =>
    r.name = .null ∧
      if c.context.overrideType.isTruthy then c.context.overrideType = .text r.expectedType
      else ∃ text, (Value.list members).json = .ok text ∧
        r.expectedType = "enums value" ++ pathClause path ++ ", expect " ++ text
  | _ => r.name = path

/-- A node that rejects its input by itself tells its name. -/
theorem Rejects.points (h : c.Rejects setting r) (hc : c.Located setting.zone) :
    c.Points c.context.name r := by
  by_cases hvalues : ∃ members nonempty samples, c.schema = .leaf (.values members nonempty) samples
  · obtain ⟨members, nonempty, samples, hschema⟩ := hvalues
    obtain ⟨s, v, ctx⟩ := c
    obtain rfl : s = _ := hschema
    have hr : parseMember members v ctx = .error (.rejected r) := h.outcome
    obtain ⟨hwithin, htype⟩ := rejection_parseMember hr
    refine ⟨hwithin.name, ?_⟩
    exact memberType_eq_ok hc.context.name hc.name htype
  · have hwithin := h.within hc fun members nonempty samples heq =>
      hvalues ⟨members, nonempty, samples, heq⟩
    unfold Points
    split
    · rename_i members nonempty samples heq
      exact absurd ⟨members, nonempty, samples, heq⟩ hvalues
    · exact hwithin.name

end Call

namespace Schema

variable {s : Schema} {setting : Setting} {v : Value} {ctx : Context} {r : Rejection}

/-- Every rejection comes from a node that a path of calls leads to, through no union, and it tells
the keys on that path behind the name of the whole input. -/
theorem exists_node_of_rejected (hs : s.Every (Locatable setting.zone)) (hctx : ctx.Plain)
    (hname : ctx.name ≠ .text "") (h : s.parse setting v ctx = .error (.rejected r)) :
    ∃ keys d, Leads setting ⟨s, v, ctx⟩ keys d ∧ d.Rejects setting r ∧
      d.Points (dottedName ctx.name keys) r := by
  have hc : Call.Located setting.zone ⟨s, v, ctx⟩ := ⟨hs, hctx, hname⟩
  obtain ⟨keys, d, hleads, hrejects⟩ := Call.exists_leads_of_rejected hc h
  obtain ⟨hd, hpath⟩ := hleads.located hc
  refine ⟨keys, d, hleads, hrejects, ?_⟩
  rw [← hpath]
  exact hrejects.points hd

/-- An order of some items. -/
def order : Schema :=
  .object [(.text "items", .array (.object [(.text "sku", .leaf (.string {}) none)] none) {} none)]
    none

/-- An order whose second item has no number. -/
def sentOrder : Value :=
  .dict [(.text "items", .list [.dict [(.text "sku", .text "a1")], .dict [(.text "sku", .null)]])]

theorem exists_node_of_rejected_order :
    ∃ r, order.parse "en" sentOrder { name := .text "order" } = .error (.rejected r) ∧
      r.name = .text "order.items.sku" ∧
      ∃ keys d, Leads "en" ⟨order, sentOrder, { name := .text "order" }⟩ keys d ∧
        d.Rejects "en" r ∧ d.Points (dottedName (.text "order") keys) r := by
  have hs : order.Every (Locatable .utc) := by
    simp [order, Locatable, Leaf.BoundsHold]
  have hctx : Context.Plain { name := .text "order" } := Context.plain_named (.text _)
  refine ⟨_, rfl, rfl, ?_⟩
  exact exists_node_of_rejected hs hctx (by simp) rfl

end Schema

end Intake
