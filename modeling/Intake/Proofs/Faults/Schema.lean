import Intake.Proofs.Faults.Leaf
import Intake.Proofs.Schema.Reliable
import Mathlib.Logic.Relation

/-!
# Where schemas fault

The nodes above reliable leaves look at their input, call their parts and put messages together.
None of that can fault, with one exception: an array shows a bound that its length breaks, and a
bound may have too many digits for that.  So a schema faults where it reaches such an array, call by
call in the order in which a parse makes them.

## Main definitions

* `Call`, `Calls` — a schema with its input and context, and the calls that it makes.
* `ArrayRule.Breaks` — the inputs on which the rule of an array faults.

## Main statements

* `Calls.reliable`, `Calls.faults` — what a call leaves as it is, and what it passes on.
* `Call.breaks_or_exists_of_faults` — where a fault comes from.
* `Schema.parse_faults_iff` — a schema faults if and only if it reaches an array that does.
-/

namespace Intake

open Outcome (faults_bind faults_map faults_ofFault faults_check_bind)
open Outcome (bind_eq_ok check_bind_eq_ok mapM_eq_error)

/-! ## Arrays -/

namespace ArrayRule

variable {rule : ArrayRule} {v : Value} {ctx : Context}

/-- The number of items of an input: as many as it has, or one where it counts as an item. -/
def Counts (rule : ArrayRule) (v : Value) (count : Nat) : Prop :=
  (∃ items, v.items? = some items ∧ items.length = count) ∨
    v.items? = none ∧ rule.maybeSingle.isTruthy = true ∧ count = 1

/-- The inputs on which a rule faults: their length breaks a bound that cannot be shown. -/
def Breaks (rule : ArrayRule) (v : Value) : Prop :=
  ∃ count, rule.Counts v count ∧ LengthChokes rule.minLength rule.maxLength count

theorem counts_iff {count : Nat} :
    rule.Counts v count ↔ ∃ values, rule.listed? v = some values ∧ values.length = count := by
  rw [Counts, listed?]
  cases v.items? with
  | some found => simp
  | none => simp [@eq_comm _ count]

theorem faults_items (hctx : ctx.Plain) (hmin : ∀ bound ∈ rule.minLength, bound.IsNumeric)
    (hmax : ∀ bound ∈ rule.maxLength, bound.IsNumeric) :
    (rule.items v ctx).Faults ↔ rule.Breaks v := by
  have htype := hctx.expected "array"
  simp only [Breaks, counts_iff]
  rw [items_eq]
  cases rule.listed? v with
  | some values => simp [faults_check_bind, faults_checkLength hctx htype hmin hmax]
  | none => simp [hctx.not_faults_reject htype, Context.rejectKind]

end ArrayRule

/-- A bound of one item can be shown. -/
theorem not_faults_onlyItem {v : Value} {ctx : Context} (hctx : ctx.Plain) :
    ¬ (onlyItem v ctx).Faults := by
  have hone : ¬ Numeric.TooLong 1 := by
    rw [Numeric.TooLong]
    exact Nat.not_le_of_lt (Nat.one_lt_pow (by decide) (by decide))
  have hnumeric : ∀ bound ∈ some (Value.int 1), bound.IsNumeric := by
    rintro bound ⟨⟩
    exact ⟨_, rfl⟩
  rw [onlyItem]
  rw [faults_bind, ArrayRule.faults_items hctx hnumeric hnumeric]
  rintro (⟨count, -, h⟩ | ⟨items, -, h⟩)
  · rcases h with ⟨n, hn, hlong, -⟩ | ⟨-, n, hn, hlong, -⟩ <;>
      cases hn <;> exact hone hlong
  · split at h
    · exact Outcome.not_faults_ok _ h
    · exact hctx.not_faults_reject (hctx.expected "array") _ h

/-! ## Nodes -/

/-- A union whose candidates all give a reason rejects its input. -/
theorem not_faults_rejectUnion {ctx : Context} (hctx : ctx.Plain) {type : String}
    {rs : List Rejection} (h : ∀ r ∈ rs, r.Voiced) : ¬ (rejectUnion ctx (.ok type) rs).Faults := by
  obtain ⟨reason, hreason, -⟩ := exists_unionReason fun r hr => (h r hr).toSays
  obtain ⟨t, ht⟩ := hctx.expected ("union type of (" ++ type ++ ")")
  simp only [rejectUnion, hreason, Outcome.ofFault_ok, Outcome.ok_bind, ht]
  exact hctx.not_faults_rejectAs hctx.name ⟨t, rfl⟩ reason rs

namespace Schema

variable {setting : Setting} {ctx : Context} {v : Value} {samples : Option SampleOptions}
  {item inner key value : Schema}

theorem faults_object {fields : List (Value × Schema)} {entries : List (Value × Value)}
    (hs : (object fields samples).Every (Reliable setting)) (hctx : ctx.Plain) :
    ((object fields samples).parse setting (.dict entries) ctx).Faults ↔
      ∃ before field after kept, fields = before ++ field :: after ∧
        parseFields setting before entries ctx = .ok kept ∧
        ∃ v inner, Presence.of field.2.tag (Entries.get? field.1 entries) = .given v ∧
          ctx.child field.1 = .ok inner ∧ (field.2.parse setting v inner).Faults := by
  have hreject : ∀ name, ¬ (ctx.reject (ctx.expected "object") name : Outcome Unit).Faults :=
    hctx.not_faults_reject (hctx.expected "object")
  rw [parse, faults_map]
  simp only [Outcome.Faults] at hreject ⊢
  simp only [parseFields_eq_error hctx (fields_of_reliable hs), FieldFails]
  constructor
  · rintro ⟨fault, before, field, after, kept, heq, hkept, ⟨v, inner, hv, hinner, h⟩ |
      ⟨-, name, -, h⟩⟩
    · exact ⟨before, field, after, kept, heq, hkept, v, inner, hv, hinner, fault, h⟩
    · exact absurd ⟨fault, h⟩ (hreject _)
  · rintro ⟨before, field, after, kept, heq, hkept, v, inner, hv, hinner, fault, h⟩
    exact ⟨fault, before, field, after, kept, heq, hkept, .inl ⟨v, inner, hv, hinner, h⟩⟩

theorem faults_array {rule : ArrayRule} (hs : (array item rule samples).Every (Reliable setting))
    (hctx : ctx.Plain) : ((array item rule samples).parse setting v ctx).Faults ↔
      rule.Breaks v ∨ ∃ before e after inner kept, rule.items v ctx = .ok (before ++ e :: after) ∧
        ctx.item = .ok inner ∧ before.mapM (fun d => item.parse setting d inner) = .ok kept ∧
        (item.parse setting e inner).Faults := by
  obtain ⟨hmin, hmax⟩ := hs.here
  obtain ⟨inner, hinner, -⟩ := hctx.item
  rw [parse, faults_bind, ArrayRule.faults_items hctx hmin hmax, hinner]
  simp only [Outcome.ofFault_ok, Outcome.ok_bind, faults_map]
  refine or_congr_right ?_
  constructor
  · rintro ⟨items, hitems, fault, h⟩
    obtain ⟨before, e, after, kept, rfl, hkept, h⟩ := mapM_eq_error.mp h
    exact ⟨before, e, after, inner, kept, hitems, rfl, hkept, fault, h⟩
  · rintro ⟨before, e, after, _, kept, hitems, ⟨⟩, hkept, fault, h⟩
    exact ⟨_, hitems, fault, mapM_eq_error.mpr ⟨before, e, after, kept, rfl, hkept, h⟩⟩

theorem faults_single (hctx : ctx.Plain) : ((single item).parse setting v ctx).Faults ↔
    ∃ e inner, onlyItem v (ctx.overriding (ctx.expected "singletonArray")) = .ok e ∧
      (ctx.overriding (ctx.expected "singletonArray")).item = .ok inner ∧
      (item.parse setting e inner).Faults := by
  have hctx := hctx.overriding_expected "singletonArray"
  obtain ⟨inner, hinner, -⟩ := hctx.item
  rw [parse, faults_bind, or_iff_right (not_faults_onlyItem hctx), hinner]
  simp

theorem faults_nullable (hs : (nullable inner samples).Every (Reliable setting))
    (hctx : ctx.Plain) : ((nullable inner samples).parse setting v ctx).Faults ↔
      v ≠ .null ∧ ∃ ctx', ctx.nonNull = .ok ctx' ∧ (inner.parse setting v ctx').Faults := by
  have hinner : inner.Every (Reliable setting) := hs.of_mem (by simp [parts])
  have hrequire := require_of_reliable hinner.here
  obtain ⟨ctx', hctx', -⟩ := hctx.nonNull
  cases v with
  | null => simp [parse]
  | _ => simp [parse, hrequire, hctx']

theorem faults_union {candidates : List Schema}
    (hs : (union candidates samples).Every (Reliable setting)) (hv : v.Named) (hctx : ctx.Plain) :
    ((union candidates samples).parse setting v ctx).Faults ↔
      ∃ before s after rs, candidates = before ++ s :: after ∧
        parseFirst setting before v ctx.candidate = .ok (.error rs) ∧
        (s.parse setting v ctx.candidate).Faults := by
  have hparts : ∀ s ∈ candidates, s.Every (Reliable setting) := fun s hs' => hs.of_mem hs'
  obtain ⟨type, htype, -⟩ := exists_signature hs
  rw [parse, faults_bind, or_iff_left]
  · rw [Outcome.Faults]
    simp only [parseFirst_eq_faulted fun s hs => exists_typeText (hparts s hs)]
    constructor
    · rintro ⟨fault, before, s, after, rs, heq, hrs, h⟩
      exact ⟨before, s, after, rs, heq, hrs, fault, h⟩
    · rintro ⟨before, s, after, rs, heq, hrs, fault, h⟩
      exact ⟨fault, before, s, after, rs, heq, hrs, h⟩
  · -- once all candidates have rejected, nothing is left to go wrong
    rintro ⟨first, hfirst, h⟩
    cases first with
    | ok w => exact Outcome.not_faults_ok w h
    | error rs =>
      rw [htype] at h
      refine not_faults_rejectUnion hctx (fun r hr => ?_) h
      obtain ⟨s, hs', hr⟩ := exists_candidate_of_mem hfirst hr
      exact givesReasons (hparts s hs') hv hctx.candidate r hr

theorem faults_dict {entries : List (Value × Value)}
    (hs : (dict key value samples).Every (Reliable setting)) (hv : (Value.dict entries).Named)
    (hctx : ctx.Plain) : ((dict key value samples).parse setting (.dict entries) ctx).Faults ↔
      ∃ before entry after keyContext valueContext kept, entries = before ++ entry :: after ∧
        ctx.entrySide (ctx.expected "dict/record") "in key" = .ok keyContext ∧
        ctx.entrySide (ctx.expected "dict/record") "in value" = .ok valueContext ∧
        parseEntries (fun k => key.parse setting k keyContext)
          (fun w => value.parse setting w valueContext) before [] = .ok kept ∧
        ((key.parse setting entry.1 keyContext).Faults ∨
          ∃ k, key.parse setting entry.1 keyContext = .ok k ∧
            (value.parse setting entry.2 valueContext).Faults) := by
  have htype := hctx.isPhrase_expected "dict/record"
  obtain ⟨keyContext, hkey, hplain⟩ := hctx.entrySide htype "in key"
  obtain ⟨valueContext, hvalue, -⟩ := hctx.entrySide htype "in value"
  have hkeys : ∀ entry ∈ entries, ∀ k, key.parse setting entry.1 keyContext = .ok k →
      k.isHashable = true := fun entry hentry k hk => hs.here (hv.of_entries hentry).1 hplain hk
  simp only [parse, hkey, hvalue, Outcome.ofFault_ok, Outcome.ok_bind, faults_map]
  constructor
  · rintro ⟨fault, h⟩
    obtain ⟨before, entry, after, kept, heq, hkept, h⟩ := (parseEntries_eq_error hkeys).mp h
    refine ⟨before, entry, after, keyContext, valueContext, kept, heq, rfl, rfl, hkept, ?_⟩
    rcases h with h | ⟨k, hk, h⟩
    · exact .inl ⟨fault, h⟩
    · exact .inr ⟨k, hk, fault, h⟩
  · rintro ⟨before, entry, after, _, _, kept, heq, ⟨⟩, ⟨⟩, hkept, h⟩
    rcases h with ⟨fault, h⟩ | ⟨k, hk, fault, h⟩
    · exact ⟨fault, (parseEntries_eq_error hkeys).mpr
        ⟨before, entry, after, kept, heq, hkept, .inl h⟩⟩
    · exact ⟨fault, (parseEntries_eq_error hkeys).mpr
        ⟨before, entry, after, kept, heq, hkept, .inr ⟨k, hk, h⟩⟩⟩

end Schema

/-! ## Calls -/

/-- A schema with the input and the context that it is called with. -/
structure Call where
  schema : Schema
  input : Value
  context : Context

/-- The calls that a call makes, in their order: each of them is made where those before it have
passed, or have rejected the input of a union. -/
inductive Calls (setting : Setting) : Call → Call → Prop
  | field {before after samples entries ctx kept key part v inner}
      (passed : Schema.parseFields setting before entries ctx = .ok kept)
      (given : Presence.of part.tag (Entries.get? key entries) = .given v)
      (child : ctx.child key = .ok inner) :
      Calls setting ⟨.object (before ++ (key, part) :: after) samples, .dict entries, ctx⟩
        ⟨part, v, inner⟩
  | item {item rule samples v ctx before e after inner kept}
      (items : rule.items v ctx = .ok (before ++ e :: after))
      (context : ctx.item = .ok inner)
      (passed : before.mapM (fun d => item.parse setting d inner) = .ok kept) :
      Calls setting ⟨.array item rule samples, v, ctx⟩ ⟨item, e, inner⟩
  | only {item v ctx e inner}
      (found : onlyItem v (ctx.overriding (ctx.expected "singletonArray")) = .ok e)
      (context : (ctx.overriding (ctx.expected "singletonArray")).item = .ok inner) :
      Calls setting ⟨.single item, v, ctx⟩ ⟨item, e, inner⟩
  | nonNull {part samples v ctx inner} (given : v ≠ .null)
      (context : ctx.nonNull = .ok inner) :
      Calls setting ⟨.nullable part samples, v, ctx⟩ ⟨part, v, inner⟩
  | wrapped {part v ctx} : Calls setting ⟨.optional part, v, ctx⟩ ⟨part, v, ctx⟩
  | candidate {before part after samples v ctx rs}
      (rejected : Schema.parseFirst setting before v ctx.candidate = .ok (.error rs)) :
      Calls setting ⟨.union (before ++ part :: after) samples, v, ctx⟩ ⟨part, v, ctx.candidate⟩
  | key {key value samples before entry after ctx keyContext valueContext kept}
      (keyContext_eq : ctx.entrySide (ctx.expected "dict/record") "in key" = .ok keyContext)
      (valueContext_eq : ctx.entrySide (ctx.expected "dict/record") "in value" = .ok valueContext)
      (passed : parseEntries (fun k => key.parse setting k keyContext)
        (fun w => value.parse setting w valueContext) before [] = .ok kept) :
      Calls setting ⟨.dict key value samples, .dict (before ++ entry :: after), ctx⟩
        ⟨key, entry.1, keyContext⟩
  | value {key value samples before entry after ctx keyContext valueContext kept k}
      (keyContext_eq : ctx.entrySide (ctx.expected "dict/record") "in key" = .ok keyContext)
      (valueContext_eq : ctx.entrySide (ctx.expected "dict/record") "in value" = .ok valueContext)
      (passed : parseEntries (fun k => key.parse setting k keyContext)
        (fun w => value.parse setting w valueContext) before [] = .ok kept)
      (parsed : key.parse setting entry.1 keyContext = .ok k) :
      Calls setting ⟨.dict key value samples, .dict (before ++ entry :: after), ctx⟩
        ⟨value, entry.2, valueContext⟩

namespace Call

/-- What a call comes to. -/
def outcome (setting : Setting) (c : Call) : Outcome Value :=
  c.schema.parse setting c.input c.context

/-- A reliable schema with an input in which every class has a name, in a context of text. -/
structure Reliable (setting : Setting) (c : Call) : Prop where
  schema : c.schema.Every (Schema.Reliable setting)
  input : c.input.Named
  context : c.context.Plain

/-- A call of an array on whose input its rule faults. -/
def Breaks (c : Call) : Prop :=
  ∃ item rule samples, c.schema = .array item rule samples ∧ rule.Breaks c.input

end Call

namespace Calls

variable {setting : Setting} {c d : Call}

theorem mem_parts (h : Calls setting c d) : d.schema ∈ c.schema.parts := by
  cases h <;> simp [Schema.parts]

/-- What is called by a reliable call is reliable. -/
theorem reliable (h : Calls setting c d) (hc : c.Reliable setting) : d.Reliable setting := by
  obtain ⟨hschema, hinput, hctx⟩ := hc
  have hpart := hschema.of_mem h.mem_parts
  cases h with
  | @field before after samples entries ctx kept key part v inner passed given child =>
    obtain ⟨name, rfl⟩ : ∃ name, key = .text name := hschema.here (key, part) (by simp)
    exact ⟨hpart, Value.Named.of_get? hinput (Presence.of_eq_given.mp given).1,
      Context.Plain.of_child hctx child⟩
  | item items context passed =>
    exact ⟨hpart, ArrayRule.named_of_items hinput items _ (by simp),
      Context.Plain.of_item hctx context⟩
  | only found context =>
    exact ⟨hpart, named_of_onlyItem hinput found,
      (Context.Plain.overriding_expected hctx "singletonArray").of_item context⟩
  | nonNull given context => exact ⟨hpart, hinput, Context.Plain.of_nonNull hctx context⟩
  | wrapped => exact ⟨hpart, hinput, hctx⟩
  | candidate rejected => exact ⟨hpart, hinput, Context.Plain.candidate hctx⟩
  | key keyContext_eq valueContext_eq passed =>
    exact ⟨hpart, (Value.Named.of_entries hinput (by simp)).1,
      Context.Plain.of_entrySide hctx keyContext_eq⟩
  | value keyContext_eq valueContext_eq passed parsed =>
    exact ⟨hpart, (Value.Named.of_entries hinput (by simp)).2,
      Context.Plain.of_entrySide hctx valueContext_eq⟩

/-- A fault of what is called is one of the call. -/
theorem faults (h : Calls setting c d) (hc : c.Reliable setting) (hd : (d.outcome setting).Faults) :
    (c.outcome setting).Faults := by
  obtain ⟨hschema, hinput, hctx⟩ := hc
  cases h with
  | field passed given child =>
    exact (Schema.faults_object hschema hctx).mpr ⟨_, _, _, _, rfl, passed, _, _, given, child, hd⟩
  | item items context passed =>
    exact (Schema.faults_array hschema hctx).mpr (.inr ⟨_, _, _, _, _, items, context, passed, hd⟩)
  | only found context => exact (Schema.faults_single hctx).mpr ⟨_, _, found, context, hd⟩
  | nonNull given context =>
    exact (Schema.faults_nullable hschema hctx).mpr ⟨given, _, context, hd⟩
  | wrapped => exact hd
  | candidate rejected =>
    exact (Schema.faults_union hschema hinput hctx).mpr ⟨_, _, _, _, rfl, rejected, hd⟩
  | key keyContext_eq valueContext_eq passed =>
    exact (Schema.faults_dict hschema hinput hctx).mpr
      ⟨_, _, _, _, _, _, rfl, keyContext_eq, valueContext_eq, passed, .inl hd⟩
  | value keyContext_eq valueContext_eq passed parsed =>
    exact (Schema.faults_dict hschema hinput hctx).mpr
      ⟨_, _, _, _, _, _, rfl, keyContext_eq, valueContext_eq, passed, .inr ⟨_, parsed, hd⟩⟩

end Calls

namespace Call

variable {setting : Setting} {c : Call}

/-- A call that faults is one of an array on whose input the rule does, or it makes a call that
faults. -/
theorem breaks_or_exists_of_faults (hc : c.Reliable setting) (h : (c.outcome setting).Faults) :
    c.Breaks ∨ ∃ d, Calls setting c d ∧ (d.outcome setting).Faults := by
  obtain ⟨s, v, ctx⟩ := c
  obtain ⟨hschema, hinput, hctx⟩ := hc
  cases s with
  | leaf atom samples => exact absurd h (Schema.not_faults_of_answers hschema.here.1 hinput hctx)
  | custom rule => exact absurd h (Schema.not_faults_of_answers hschema.here.1 hinput hctx)
  | object fields samples =>
    cases v with
    | dict entries =>
      obtain ⟨before, field, after, kept, rfl, passed, v, inner, given, child, hd⟩ :=
        (Schema.faults_object hschema hctx).mp h
      exact .inr ⟨⟨field.2, v, inner⟩, .field passed given child, hd⟩
    | _ => exact absurd h (not_faults_rejectKind hctx _)
  | array item rule samples =>
    rcases (Schema.faults_array hschema hctx).mp h with
      hbreaks | ⟨before, e, after, inner, kept, items, context, passed, hd⟩
    · exact .inl ⟨item, rule, samples, rfl, hbreaks⟩
    · exact .inr ⟨⟨item, e, inner⟩, .item items context passed, hd⟩
  | single item =>
    obtain ⟨e, inner, found, context, hd⟩ := (Schema.faults_single hctx).mp h
    exact .inr ⟨⟨item, e, inner⟩, .only found context, hd⟩
  | nullable part samples =>
    obtain ⟨given, inner, context, hd⟩ := (Schema.faults_nullable hschema hctx).mp h
    exact .inr ⟨⟨part, v, inner⟩, .nonNull given context, hd⟩
  | optional part => exact .inr ⟨⟨part, v, ctx⟩, .wrapped, h⟩
  | union candidates samples =>
    obtain ⟨before, part, after, rs, rfl, rejected, hd⟩ :=
      (Schema.faults_union hschema hinput hctx).mp h
    exact .inr ⟨⟨part, v, ctx.candidate⟩, .candidate rejected, hd⟩
  | dict key value samples =>
    cases v with
    | dict entries =>
      obtain ⟨before, entry, after, keyContext, valueContext, kept, rfl, hkey, hvalue, passed,
        hd | ⟨k, parsed, hd⟩⟩ := (Schema.faults_dict hschema hinput hctx).mp h
      · exact .inr ⟨⟨key, entry.1, keyContext⟩, .key hkey hvalue passed, hd⟩
      · exact .inr ⟨⟨value, entry.2, valueContext⟩, .value hkey hvalue passed parsed, hd⟩
    | _ =>
      have hinner := hctx.overriding (hctx.isPhrase_expected "dict/record")
      exact absurd h (hinner.not_faults_reject (hctx.expected _) _)
  | plain v => exact hschema.here.elim

/-- A call faults if it reaches a call of an array on whose input the rule does. -/
theorem faults_of_reaches {d : Call} (hc : c.Reliable setting)
    (h : Relation.ReflTransGen (Calls setting) c d) (hd : d.Breaks) :
    (c.outcome setting).Faults := by
  induction h using Relation.ReflTransGen.head_induction_on with
  | refl =>
    obtain ⟨item, rule, samples, hschema, hbreaks⟩ := hd
    obtain ⟨s, v, ctx⟩ := d
    obtain rfl : s = _ := hschema
    exact (Schema.faults_array hc.schema hc.context).mpr (.inl hbreaks)
  | head hcall _ ih => exact hcall.faults hc (ih (hcall.reliable hc))

/-- A call that faults reaches a call of an array on whose input the rule does: the induction goes
down the schema. -/
theorem exists_reaches_of_faults (hc : c.Reliable setting) (h : (c.outcome setting).Faults) :
    ∃ d, Relation.ReflTransGen (Calls setting) c d ∧ d.Breaks := by
  obtain ⟨s, v, ctx⟩ := c
  have hschema : s.Every (Schema.Reliable setting) := hc.schema
  induction hschema generalizing v ctx with
  | @node s here below ih =>
    rcases breaks_or_exists_of_faults hc h with hbreaks | ⟨d, hcall, hd⟩
    · exact ⟨_, .refl, hbreaks⟩
    · obtain ⟨e, hreach, hbreaks⟩ :=
        ih d.schema hcall.mem_parts d.input d.context (hcall.reliable hc) hd
      exact ⟨e, .head hcall hreach, hbreaks⟩

end Call

/-! ## Schemas -/

namespace Schema

variable {s : Schema} {setting : Setting} {v : Value} {ctx : Context}

/-- A reliable schema faults if and only if it gets to an array with a bound that is broken and has
too many digits to be shown.  On all other inputs it has a value or rejects the input, in every
context of text. -/
theorem parse_faults_iff (hs : s.Every (Reliable setting)) (hv : v.Named) (hctx : ctx.Plain) :
    (s.parse setting v ctx).Faults ↔ ∃ item rule samples w inner,
      Relation.ReflTransGen (Calls setting) ⟨s, v, ctx⟩ ⟨.array item rule samples, w, inner⟩ ∧
        rule.Breaks w := by
  have hc : Call.Reliable setting ⟨s, v, ctx⟩ := ⟨hs, hv, hctx⟩
  constructor
  · intro h
    obtain ⟨⟨_, w, inner⟩, hreach, item, rule, samples, rfl, hbreaks⟩ :=
      Call.exists_reaches_of_faults hc h
    exact ⟨item, rule, samples, w, inner, hreach, hbreaks⟩
  · rintro ⟨item, rule, samples, w, inner, hreach, hbreaks⟩
    exact Call.faults_of_reaches hc hreach ⟨item, rule, samples, rfl, hbreaks⟩

/-- An array that is asked to have more items than there are digits to say how many. -/
def endless : Schema :=
  .array (.leaf (.boolean none) none) { minLength := some (.int (10 ^ Numeric.maxDigits)) } none

theorem endless_reliable : endless.Every (Reliable setting) := by
  have hanswers : Answers (Leaf.parse setting (.boolean none)) := fun v _ _ _ =>
    .inl ⟨.bool v.truth, rfl⟩
  refine every_array.mpr ⟨⟨?_, by simp⟩, every_leaf.mpr ⟨hanswers, "boolean", rfl, by decide⟩⟩
  rintro bound ⟨⟩
  exact ⟨_, rfl⟩

theorem endless_breaks :
    ArrayRule.Breaks { minLength := some (.int (10 ^ Numeric.maxDigits)) } (.list []) := by
  refine ⟨0, .inl ⟨[], rfl, rfl⟩, .inl ⟨_, rfl, Numeric.tooLong_tenPow, ?_⟩⟩
  rw [Numeric.Number.lt_int]
  exact decide_eq_true (Int.pow_pos (by decide))

theorem named_nil : (Value.list []).Named :=
  .node (by decide) (by simp [Value.parts])

theorem parse_faults_iff_endless : endless.Every (Reliable "en") ∧ (Value.list []).Named ∧
    Context.root.Plain ∧ (endless.parse "en" (.list []) .root).Faults :=
  ⟨endless_reliable, named_nil, Context.plain_root,
    (parse_faults_iff endless_reliable named_nil Context.plain_root).mpr
      ⟨_, _, _, _, _, .refl, endless_breaks⟩⟩

/-- Not every reliable schema is free of faults. -/
theorem exists_reliable_faults : ¬ ∀ (s : Schema) (setting : Setting) (v : Value) (ctx : Context),
    s.Every (Reliable setting) → v.Named → ctx.Plain → ¬ (s.parse setting v ctx).Faults := by
  intro h
  refine h endless "en" (.list []) .root endless_reliable named_nil Context.plain_root ?_
  exact (faults_array endless_reliable Context.plain_root).mpr (.inl endless_breaks)

end Schema

end Intake
