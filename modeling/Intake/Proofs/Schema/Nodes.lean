import Intake.Schema.Parse
import Intake.Proofs.Rule.Text
import Intake.Proofs.Value.Entries

/-!
# Accepted by a node

What it takes for each kind of node to accept an input, in terms of the parts below it.  An object
takes what is bound to the keys of its fields and nothing else, an array as many items as it allows,
and a dictionary every entry.

## Main statements

* `Schema.parseFields_congr` — only what is bound to the declared keys matters.
* `Schema.parseFields_cons_eq_ok` — the fields are parsed one by one.
* `parseEntries_of_forall` — entries that are left alone one by one come out as they are.
* `Schema.parse_object_eq_ok`, `Schema.parse_array_eq_ok`, `Schema.parse_nullable_eq_ok`,
  `Schema.parse_dict_eq_ok` — when a node accepts.
-/

namespace Intake

open Outcome (bind_eq_ok check_bind_eq_ok map_eq_ok ofFault_eq_ok)

/-! ## Fields -/

namespace Presence

variable {tag : Tag} {found : Option Value} {v : Value}

/-- Only optional fields are left out. -/
theorem tag_eq_of_omitted (h : Presence.of tag found = .omitted) : tag = .optional := by
  cases found with
  | none => cases tag <;> simp_all [Presence.of]
  | some v =>
    simp only [Presence.of] at h
    split at h <;> simp_all

/-- Only the state of a checkbox is known where it is not given. -/
theorem tag_eq_of_known (h : Presence.of tag found = .known v) : tag = .checkbox := by
  cases found with
  | none => cases tag <;> simp_all [Presence.of]
  | some w =>
    simp only [Presence.of] at h
    split at h <;> cases h

/-- A field is missing if it is absent and neither optional nor a checkbox. -/
theorem of_eq_missing : Presence.of tag found = .missing ↔ found = none ∧ tag = .none := by
  cases found with
  | none => cases tag <;> simp [Presence.of]
  | some w =>
    simp only [Presence.of]
    split <;> simp

/-- What is given is not an absent value for an optional field. -/
theorem of_eq_given : Presence.of tag found = .given v ↔
    found = some v ∧ (v.isAbsent && decide (tag = .optional)) = false := by
  cases found with
  | none => cases tag <;> simp [Presence.of]
  | some w =>
    simp only [Presence.of]
    split
    · simp_all
      rintro rfl
      exact ‹_ ∧ _›.1
    · simp_all

/-- What comes of a given value is given as well, unless it is absent where the value was not. -/
theorem of_eq_given_of_given {w : Value} (h : Presence.of tag found = .given v)
    (habsent : w.isAbsent = true → v = w) : Presence.of tag (some w) = .given w := by
  refine of_eq_given.mpr ⟨rfl, Bool.eq_false_iff.mpr fun hleft => ?_⟩
  obtain ⟨hw, htag⟩ := Bool.and_eq_true_iff.mp hleft
  have hkept := (of_eq_given.mp h).2
  rw [habsent hw, hw, htag] at hkept
  cases hkept

end Presence

namespace Schema

variable {setting : Setting} {key : Value} {s : Schema} {fields : List (Value × Schema)}
  {entries others out : List (Value × Value)} {ctx : Context}

/-- The fields of an object depend only on what is bound to their keys. -/
theorem parseFields_congr
    (h : ∀ field ∈ fields, Entries.get? field.1 entries = Entries.get? field.1 others) :
    parseFields setting fields entries ctx = parseFields setting fields others ctx := by
  induction fields with
  | nil => rfl
  | cons field fields ih =>
    obtain ⟨key, s⟩ := field
    simp only [parseFields, h (key, s) List.mem_cons_self,
      ih fun field hfield => h field (List.mem_cons_of_mem _ hfield)]

/-- A field is left out, or it adds the value that is known or parsed. -/
theorem parseFields_cons_eq_ok :
    parseFields setting ((key, s) :: fields) entries ctx = .ok out ↔
      (Presence.of s.tag (Entries.get? key entries) = .omitted ∧
        parseFields setting fields entries ctx = .ok out) ∨
      ∃ w rest, out = (key, w) :: rest ∧ parseFields setting fields entries ctx = .ok rest ∧
        (Presence.of s.tag (Entries.get? key entries) = .known w ∨
          ∃ v inner, Presence.of s.tag (Entries.get? key entries) = .given v ∧
            s.require = .ok () ∧ ctx.child key = .ok inner ∧ s.parse setting v inner = .ok w) := by
  rw [parseFields]
  cases Presence.of s.tag (Entries.get? key entries) with
  | omitted => simp
  | known w =>
    simp only [bind_eq_ok, Outcome.pure_eq_ok, reduceCtorEq, false_and, false_or, exists_false,
      or_false, Presence.known.injEq, Except.ok.injEq]
    constructor
    · rintro ⟨rest, hrest, rfl⟩
      exact ⟨w, rest, rfl, hrest, rfl⟩
    · rintro ⟨_, rest, rfl, hrest, rfl⟩
      exact ⟨rest, hrest, rfl⟩
  | given v =>
    simp only [bind_eq_ok, ofFault_eq_ok, Outcome.exists_unit, Outcome.pure_eq_ok, reduceCtorEq,
      false_and, false_or, Presence.given.injEq]
    constructor
    · rintro ⟨hrequire, inner, hinner, w, hw, rest, hrest, h⟩
      cases h
      exact ⟨w, rest, rfl, hrest, v, inner, rfl, hrequire, hinner, hw⟩
    · rintro ⟨w, rest, rfl, hrest, _, inner, rfl, hrequire, hinner, hw⟩
      exact ⟨hrequire, inner, hinner, w, hw, rest, hrest, rfl⟩
  | missing => simp [bind_eq_ok]

/-- Only declared keys come out. -/
theorem exists_field_of_mem (h : parseFields setting fields entries ctx = .ok out)
    {entry : Value × Value} (hentry : entry ∈ out) : ∃ field ∈ fields, field.1 = entry.1 := by
  induction fields generalizing out with
  | nil =>
    cases h
    simp at hentry
  | cons field fields ih =>
    rcases parseFields_cons_eq_ok.mp h with ⟨-, h⟩ | ⟨w, rest, rfl, hrest, -⟩
    · obtain ⟨f, hf, heq⟩ := ih h hentry
      exact ⟨f, List.mem_cons_of_mem _ hf, heq⟩
    · rcases List.mem_cons.mp hentry with rfl | hentry
      · exact ⟨field, List.mem_cons_self, rfl⟩
      · obtain ⟨f, hf, heq⟩ := ih hrest hentry
        exact ⟨f, List.mem_cons_of_mem _ hf, heq⟩

/-- A key that no field has is not bound in what comes out. -/
theorem get?_eq_none_of_parseFields (h : parseFields setting fields entries ctx = .ok out)
    (hkey : ∀ field ∈ fields, field.1.sameKey key = false) : Entries.get? key out = none := by
  refine Entries.get?_of_forall fun entry hentry => ?_
  obtain ⟨field, hfield, heq⟩ := exists_field_of_mem h hentry
  exact heq ▸ hkey field hfield

/-- An entry whose key no field has is passed over. -/
theorem parseFields_cons_entry (hkey : ∀ field ∈ fields, key.sameKey field.1 = false) (w : Value) :
    parseFields setting fields ((key, w) :: entries) ctx =
      parseFields setting fields entries ctx := by
  refine parseFields_congr fun field hfield => ?_
  rw [Entries.get?, hkey field hfield]
  rfl

end Schema

/-! ## Arrays -/

namespace ArrayRule

variable {rule : ArrayRule} {v : Value} {ctx : Context} {values : List Value}

/-- What a rule takes for the items of an input before it counts them: those of the input, or the
input itself where it may count as one. -/
def listed? (rule : ArrayRule) (v : Value) : Option (List Value) :=
  match v.items? with
  | some values => some values
  | none => if rule.maybeSingle.isTruthy then some [v] else none

theorem listed?_eq_some : rule.listed? v = some values ↔
    v.items? = some values ∨
      v.items? = none ∧ rule.maybeSingle.isTruthy = true ∧ values = [v] := by
  rw [listed?]
  cases v.items? with
  | some found => simp
  | none => simp [@eq_comm _ values]

/-- The items are counted, whichever way an input has them; an input without any is rejected. -/
theorem items_eq (rule : ArrayRule) (v : Value) (ctx : Context) :
    rule.items v ctx =
      match rule.listed? v with
      | some values => do
        checkLength ctx (ctx.expected "array") rule.minLength rule.maxLength values.length
        return values
      | none => ctx.rejectKind (ctx.expected "array") v := by
  rw [items, listed?]
  cases v.items? with
  | some found => rfl
  | none =>
    dsimp only
    split <;> rfl

/-- The items are those of the input, or the input itself where it may count as one; there are as
many as the rule allows. -/
theorem items_eq_ok_iff : rule.items v ctx = .ok values ↔
    (v.items? = some values ∨
      v.items? = none ∧ rule.maybeSingle.isTruthy = true ∧ values = [v]) ∧
    FitsLength rule.minLength rule.maxLength values.length := by
  rw [← listed?_eq_some, items_eq]
  cases rule.listed? v with
  | none => simp
  | some found =>
    rw [check_bind_eq_ok, checkLength_eq_ok]
    constructor
    · rintro ⟨hlength, h⟩
      cases h
      exact ⟨rfl, hlength⟩
    · rintro ⟨hfound, hlength⟩
      cases hfound
      exact ⟨hlength, rfl⟩

theorem fitsLength_of_items (h : rule.items v ctx = .ok values) :
    FitsLength rule.minLength rule.maxLength values.length :=
  (items_eq_ok_iff.mp h).2

/-- A list of as many items as the rule allows is taken as it is. -/
theorem items_list (h : FitsLength rule.minLength rule.maxLength values.length) :
    rule.items (.list values) ctx = .ok values :=
  items_eq_ok_iff.mpr ⟨.inl rfl, h⟩

end ArrayRule

/-! ## Dictionaries -/

section Dictionaries

variable {parseKey parseValue : Value → Outcome Value} {entries parsed out : List (Value × Value)}

theorem parseEntries_cons_eq_ok {key value : Value} :
    parseEntries parseKey parseValue ((key, value) :: entries) parsed = .ok out ↔
      ∃ k v, parseKey key = .ok k ∧ parseValue value = .ok v ∧ k.isHashable = true ∧
        parseEntries parseKey parseValue entries (Entries.put k v parsed) = .ok out := by
  rw [parseEntries]
  simp only [bind_eq_ok]
  constructor
  · rintro ⟨k, hk, v, hv, h⟩
    split at h
    · exact ⟨k, v, hk, hv, ‹_›, h⟩
    · cases h
  · rintro ⟨k, v, hk, hv, hhash, h⟩
    exact ⟨k, hk, v, hv, by rwa [if_pos hhash]⟩

/-- What holds of parsed keys and values holds of all entries that come out. -/
theorem parseEntries_forall {P Q : Value → Prop}
    (hkey : ∀ {key k}, parseKey key = .ok k → k.isHashable = true → P k)
    (hvalue : ∀ {value v}, parseValue value = .ok v → Q v) (hparsed : ∀ e ∈ parsed, P e.1 ∧ Q e.2)
    (h : parseEntries parseKey parseValue entries parsed = .ok out) :
    ∀ e ∈ out, P e.1 ∧ Q e.2 := by
  induction entries generalizing parsed with
  | nil =>
    cases h
    exact hparsed
  | cons entry entries ih =>
    obtain ⟨k, v, hk, hv, hhash, h⟩ := parseEntries_cons_eq_ok.mp h
    exact ih (Entries.forall_put hparsed (hkey hk hhash) (hvalue hv)) h

theorem distinct_of_parseEntries (hparsed : Entries.Distinct parsed)
    (h : parseEntries parseKey parseValue entries parsed = .ok out) : Entries.Distinct out := by
  induction entries generalizing parsed with
  | nil =>
    cases h
    exact hparsed
  | cons entry entries ih =>
    obtain ⟨k, v, -, -, -, h⟩ := parseEntries_cons_eq_ok.mp h
    exact ih (Entries.distinct_put hparsed k v) h

/-- Entries that are left alone one by one, with keys of their own, go to the end one after the
other. -/
theorem parseEntries_of_forall
    (hentries : ∀ e ∈ entries, (parseKey e.1 = .ok e.1 ∧ e.1.isHashable = true) ∧
      parseValue e.2 = .ok e.2) (hdistinct : Entries.Distinct (parsed ++ entries)) :
    parseEntries parseKey parseValue entries parsed = .ok (parsed ++ entries) := by
  induction entries generalizing parsed with
  | nil => simp [parseEntries]
  | cons entry entries ih =>
    obtain ⟨⟨hkey, hhash⟩, hvalue⟩ := hentries entry List.mem_cons_self
    have hnew : ∀ e ∈ parsed, e.1.sameKey entry.1 = false := by
      rw [Entries.Distinct] at hdistinct
      rw [List.map_append, List.pairwise_append] at hdistinct
      exact fun e he => hdistinct.2.2 e.1 (List.mem_map_of_mem he) entry.1 (by simp)
    refine parseEntries_cons_eq_ok.mpr ⟨entry.1, entry.2, hkey, hvalue, hhash, ?_⟩
    have happend : parsed ++ entry :: entries = (parsed ++ [(entry.1, entry.2)]) ++ entries := by
      simp
    rw [Entries.put_of_forall hnew, happend]
    exact ih (fun e he => hentries e (List.mem_cons_of_mem _ he)) (happend ▸ hdistinct)

end Dictionaries

/-! ## Nodes -/

namespace Schema

variable {setting : Setting} {v w : Value} {ctx : Context} {samples : Option SampleOptions}

theorem parse_object_eq_ok {fields : List (Value × Schema)} :
    (object fields samples).parse setting v ctx = .ok w ↔
      ∃ entries out, v = .dict entries ∧ parseFields setting fields entries ctx = .ok out ∧
        Value.dict out = w := by
  cases v with
  | dict entries => simp [parse, map_eq_ok]
  | _ => simp [parse]

theorem parse_array_eq_ok {item : Schema} {rule : ArrayRule} :
    (array item rule samples).parse setting v ctx = .ok w ↔
      ∃ items inner out, rule.items v ctx = .ok items ∧ ctx.item = .ok inner ∧
        (items.mapM fun e => item.parse setting e inner) = .ok out ∧ Value.list out = w := by
  simp [parse, bind_eq_ok, ofFault_eq_ok, map_eq_ok]

theorem parse_nullable_eq_ok {inner : Schema} :
    (nullable inner samples).parse setting v ctx = .ok w ↔
      v = .null ∧ w = .null ∨ v ≠ .null ∧ inner.require = .ok () ∧
        ∃ ctx', ctx.nonNull = .ok ctx' ∧ inner.parse setting v ctx' = .ok w := by
  cases v with
  | null => simp [parse, eq_comm]
  | _ => simp [parse, bind_eq_ok, ofFault_eq_ok]

/-- A nullable schema leaves what is not absent to the schema that it is made of. -/
theorem parse_nullable_of_ne_null {inner : Schema} {ctx' : Context} (hv : v ≠ .null)
    (hrequire : inner.require = .ok ()) (hctx : ctx.nonNull = .ok ctx') :
    (nullable inner samples).parse setting v ctx = inner.parse setting v ctx' := by
  cases v with
  | null => exact absurd rfl hv
  | _ => simp [parse, hrequire, hctx]

theorem parse_dict_eq_ok {key value : Schema} :
    (dict key value samples).parse setting v ctx = .ok w ↔
      ∃ entries keyContext valueContext out, v = .dict entries ∧
        ctx.entrySide (ctx.expected "dict/record") "in key" = .ok keyContext ∧
        ctx.entrySide (ctx.expected "dict/record") "in value" = .ok valueContext ∧
        parseEntries (fun k => key.parse setting k keyContext)
          (fun w => value.parse setting w valueContext) entries [] = .ok out ∧
        Value.dict out = w := by
  cases v with
  | dict entries => simp [parse, bind_eq_ok, ofFault_eq_ok, map_eq_ok]
  | _ => simp [parse]

/-! ### In plain contexts

The contexts of the parts can be put together, and they are plain again. -/

section Plain

/-- The items of an array are parsed one by one. -/
theorem exists_parse_array {item : Schema} {rule : ArrayRule} (hctx : ctx.Plain) :
    ∃ inner : Context, inner.Plain ∧ (array item rule samples).parse setting v ctx =
      rule.items v ctx >>= fun items =>
        .list <$> items.mapM fun e => item.parse setting e inner := by
  obtain ⟨inner, hinner, hplain⟩ := hctx.item
  refine ⟨inner, hplain, ?_⟩
  rw [parse, hinner]
  rfl

/-- A nullable schema takes null, or has the outcome of the schema that it is made of. -/
theorem parse_nullable_cases {inner : Schema} (hrequire : inner.require = .ok ())
    (hctx : ctx.Plain) :
    v = .null ∧ (nullable inner samples).parse setting v ctx = .ok .null ∨
      v ≠ .null ∧ ∃ ctx' : Context, ctx'.Plain ∧
        (nullable inner samples).parse setting v ctx = inner.parse setting v ctx' := by
  by_cases hv : v = .null
  · exact .inl ⟨hv, parse_nullable_eq_ok.mpr (.inl ⟨hv, rfl⟩)⟩
  · obtain ⟨ctx', hctx', hplain⟩ := hctx.nonNull
    exact .inr ⟨hv, ctx', hplain, parse_nullable_of_ne_null hv hrequire hctx'⟩

/-- The entries of a dictionary are parsed side by side. -/
theorem exists_parse_dict {key value : Schema} (hctx : ctx.Plain) :
    ∃ keyContext valueContext : Context, keyContext.Plain ∧ valueContext.Plain ∧ ∀ entries,
      (dict key value samples).parse setting (.dict entries) ctx =
        .dict <$> parseEntries (fun k => key.parse setting k keyContext)
          (fun w => value.parse setting w valueContext) entries [] := by
  have htype := hctx.isPhrase_expected "dict/record"
  obtain ⟨keyContext, hkey, hkeyPlain⟩ := hctx.entrySide htype "in key"
  obtain ⟨valueContext, hvalue, hvaluePlain⟩ := hctx.entrySide htype "in value"
  refine ⟨keyContext, valueContext, hkeyPlain, hvaluePlain, fun entries => ?_⟩
  simp only [parse, hkey, hvalue, Outcome.ofFault_ok, Outcome.ok_bind]

end Plain

end Schema

end Intake
