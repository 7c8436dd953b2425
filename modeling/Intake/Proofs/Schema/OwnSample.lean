import Intake.Proofs.Schema.Marks
import Intake.Proofs.Value.Facing

/-!
# Samples that stand for themselves

The schema that is inferred from a sample object has the sample itself for its sample value.  Its
fields go by the names in the keys of the sample, without the modifiers, and are looked for under
these names.  So a key with modifiers is not found, and the schema rejects its own sample value
unless the field may be left out.

## Main definitions

* `StandsForItself` — each field of a sample finds what it takes in, or may be left out.
* `HasOwnSample` — the sample value that belongs to a sample stands for itself.

## Main statements

* `Schema.accepts_self_iff` — the samples that are accepted by what is inferred from them.
* `Schema.accepts_sampleValue_iff` — the samples that lead to a schema with a sample value of its
  own.
-/

namespace Intake

open Outcome (bind_eq_ok map_eq_ok)

/-! ## Samples under their names -/

/-- A sample stands for itself: a dictionary has for each field nothing if that is optional, the
sample of the field, or something else if the field is a truth value, for which all values stand. -/
inductive StandsForItself : Value → Prop
  | atom {v : Value} (atom : v.isAtom = true) : StandsForItself v
  | list {items : List Value} (all : ∀ v ∈ items, StandsForItself v) : StandsForItself (.list items)
  | tuple {items : List Value} (all : ∀ v ∈ items, StandsForItself v) :
      StandsForItself (.tuple items)
  | dict {entries : List (Value × Value)}
      (absent : ∀ entry ∈ entries, ∀ name ms, Declares entry name ms →
        Entries.get? (.text name) entries = none → ms.optional = true)
      (own : ∀ entry ∈ entries, ∀ name ms, Declares entry name ms →
        Entries.get? (.text name) entries = some entry.2 → StandsForItself entry.2)
      (other : ∀ entry ∈ entries, ∀ name ms v, Declares entry name ms →
        Entries.get? (.text name) entries = some v → v ≠ entry.2 → entry.2.isBool = true) :
      StandsForItself (.dict entries)

/-- The sample value that belongs to a sample stands for itself: of a list it is that of the first
item. -/
inductive HasOwnSample : Value → Prop
  | atom {v : Value} (atom : v.isAtom = true) : HasOwnSample v
  | list {first : Value} {rest : List Value} (own : HasOwnSample first) :
      HasOwnSample (.list (first :: rest))
  | tuple {first : Value} {rest : List Value} (own : HasOwnSample first) :
      HasOwnSample (.tuple (first :: rest))
  | dict {entries : List (Value × Value)} (itself : StandsForItself (.dict entries)) :
      HasOwnSample (.dict entries)

/-! ## What a name finds -/

section Names

variable {listed listed' : Bool} {key name : List Char} {ms : Modifiers}

theorem Strips.ends (h : Strips listed key name ms) :
    ∀ (m : Modifier) (suffix : List Char), m.Writes listed suffix → ¬ suffix <:+ name := by
  induction h with
  | bare ends => exact ends
  | modifier _ _ ih => exact ih

theorem Strips.listed_of_enums (h : Strips listed key name ms) (henums : ms.enums = true) :
    listed = true := by
  induction h with
  | bare _ => cases henums
  | @modifier _ _ _ _ m _ writes ih =>
    cases m with
    | enums => exact writes.1 rfl
    | nullable | optional => exact ih henums

/-- A name without modifiers has none either where fewer of them count. -/
theorem Strips.self (h : Strips listed key name ms) (hlisted : listed' = true → listed = true) :
    Strips listed' name name {} :=
  .bare fun m suffix hwrites => h.ends m suffix ⟨fun hm => hlisted (hwrites.1 hm), hwrites.2⟩

end Names

section Found

variable {entries : List (Value × Value)} {entry entry' : Value × Value} {name : String}
  {ms ms' : Modifiers} {v : Value}

/-- Where names differ, a name belongs to one entry only. -/
theorem NamesDiffer.eq (h : NamesDiffer entries) (hentry : entry ∈ entries)
    (hentry' : entry' ∈ entries) (hdeclares : Declares entry name ms)
    (hdeclares' : Declares entry' name ms') : entry = entry' := by
  by_contra hne
  have hsymm : Std.Symm fun a b : Value × Value => ∀ name ms name' ms', Declares a name ms →
      Declares b name' ms' → name ≠ name' :=
    ⟨fun a b hab name ms name' ms' ha hb heq => hab name' ms' name ms hb ha heq.symm⟩
  exact h.forall hentry hentry' hne name ms name ms' hdeclares hdeclares' rfl

/-- What stands under the name of an entry is the value of the entry, whose key is the name; or it
is a list under a key that ends in a modifier for lists only, and the value is none. -/
theorem found_under_name (hkeys : ∀ entry ∈ entries, ∃ key, entry.1 = .text key)
    (hnames : NamesDiffer entries) (hentry : entry ∈ entries) (hdeclares : Declares entry name ms)
    (hfound : Entries.get? (.text name) entries = some v) :
    v = entry.2 ∧ ms = {} ∨ v.items?.isSome = true ∧ entry.2.items?.isSome = false := by
  obtain ⟨other, hother, hsame, rfl⟩ := Entries.exists_sameKey_of_get? hfound
  have hkey : other.1 = .text name := by
    obtain ⟨key, hkey⟩ := hkeys other hother
    rw [hkey, Value.sameKey_text, decide_eq_true_eq] at hsame
    rw [hkey, hsame]
  obtain ⟨key, hkey', hstrips⟩ := hdeclares
  by_cases hlisted : other.2.items?.isSome = true → entry.2.items?.isSome = true
  · have hself : Declares other name {} := ⟨name, hkey, hstrips.self hlisted⟩
    obtain rfl := hnames.eq hentry hother ⟨key, hkey', hstrips⟩ hself
    exact .inl ⟨rfl, (Declares.unique ⟨key, hkey', hstrips⟩ hself).2⟩
  · simp only [Classical.not_imp, Bool.not_eq_true] at hlisted
    exact .inr hlisted

end Found

/-! ## Leaves and lists -/

/-- The leaves that are inferred from single values, truth values aside. -/
inductive SampleLeaf : Leaf → Prop
  | string : SampleLeaf (.string {})
  | int : SampleLeaf (.int {})
  | float : SampleLeaf (.float {})
  | date : SampleLeaf (.date {})

/-- No list is accepted by them. -/
theorem SampleLeaf.parse_items_ne_ok {atom : Leaf} {setting : Setting} {ctx : Context} {w : Value}
    (hatom : SampleLeaf atom) (hw : w.items?.isSome = true) (v : Value) :
    atom.parse setting w ctx ≠ .ok v := by
  have hread : ∀ (ctx : Context) (expected : Value) (s : String),
      TextRule.read ctx expected (TextRule.taken {} w) ≠ .ok s := by
    intro ctx expected s
    cases w with
    | list items | tuple items => exact ctx.rejectKind_ne_ok expected s _
    | _ => cases hw
  have hnumber : ∀ (ctx : Context) (n : Numeric.Number),
      NumberRule.parse {} setting.locale w ctx ≠ .ok n := by
    intro ctx n h
    obtain ⟨m, h, -⟩ := NumberRule.parse_eq_ok_iff.mp h
    cases w with
    | list items | tuple items => exact ctx.rejectKind_ne_ok _ m _ h
    | _ => cases hw
  have hdate : ∀ m, readDate setting.zone w ctx ≠ .ok m := by
    intro m
    cases w with
    | list items | tuple items => exact ctx.reject_ne_ok _ _ m _
    | _ => cases hw
  intro h
  cases hatom with
  | string =>
    obtain ⟨s, h, -⟩ := map_eq_ok.mp h
    obtain ⟨expected, -, -, h, -⟩ := TextRule.parse_eq_ok_iff.mp h
    exact hread ctx expected s h
  | int =>
    obtain ⟨k, h, -⟩ := map_eq_ok.mp h
    obtain ⟨n, h, -⟩ := NumberRule.parseInt_eq_ok_iff.mp h
    exact hnumber _ n h
  | float =>
    obtain ⟨x, h, -⟩ := map_eq_ok.mp h
    obtain ⟨n, h, -⟩ := bind_eq_ok.mp h
    exact hnumber _ n h
  | date =>
    obtain ⟨m, h, -⟩ := map_eq_ok.mp h
    obtain ⟨m, h, -⟩ := bind_eq_ok.mp h
    exact hdate m h

namespace Schema

variable {v : Value} {s : Schema} {ms : Modifiers} {setting : Setting} {ctx : Context}

/-! ## Inferred schemas as they are -/

/-- What is inferred from a value is neither optional nor a checkbox. -/
theorem tag_of_infer (h : infer v = .ok s) : s.tag = .none := by
  cases v with
  | number n =>
    rw [infer] at h
    cases h
    unfold inferNumber
    repeat' split
    all_goals rfl
  | list items | tuple items =>
    rw [infer] at h
    obtain ⟨item, -, h⟩ := bind_eq_ok.mp h
    obtain ⟨type, -, h⟩ := bind_eq_ok.mp h
    obtain ⟨-, -, h⟩ := bind_eq_ok.mp h
    obtain ⟨samples, -, rfl⟩ := map_eq_ok.mp h
    rfl
  | dict entries =>
    obtain ⟨fields, -, rfl⟩ := infer_dict_eq_ok.mp h
    rfl
  | bool b | text t | moment m | day d =>
    rw [infer] at h
    cases h
    rfl
  | null | undefined | pattern p | foreign name n => simp [infer, bind_eq_ok] at h

theorem tag_wrapped (ms : Modifiers) (hs : s.tag = .none) :
    (wrapped ms s).tag = if ms.optional then .optional else .none := by
  rw [wrapped]
  cases ms.optional with
  | true => rfl
  | false =>
    cases ms.nullable with
    | true => rfl
    | false => exact hs

/-- Modifiers have no say in whether a value other than null is accepted. -/
theorem accepts_wrapped_iff {P : Prop} (ms : Modifiers) (htyped : s.Typed) (hv : v ≠ .null)
    (h : ∀ ctx, ctx.Plain → (s.Accepts setting v ctx ↔ P)) (hctx : ctx.Plain) :
    (wrapped ms s).Accepts setting v ctx ↔ P := by
  have hinner :
      (if ms.nullable then .nullable s none else s : Schema).Accepts setting v ctx ↔ P := by
    split
    · obtain ⟨ctx', hctx', hplain⟩ := hctx.nonNull
      rw [accepts_nullable_iff, or_iff_right hv]
      constructor
      · rintro ⟨-, -, ctx'', hctx'', haccepts⟩
        cases hctx'.symm.trans hctx''
        exact (h ctx' hplain).mp haccepts
      · intro hP
        exact ⟨hv, require_of_typed htyped, ctx', hctx', (h ctx' hplain).mpr hP⟩
    · exact h ctx hctx
  rw [wrapped]
  split <;> exact hinner

/-- From a single value that is no truth value a leaf is inferred, with a sample that it accepts. -/
theorem exists_sampleLeaf (hsample : IsSample v) (hatom : v.isAtom = true)
    (hbool : v.isBool = false) :
    ∃ atom sample, SampleLeaf atom ∧ infer v = .ok (sampled atom sample) ∧
      ∀ setting ctx, ctx.Plain → ∃ w, atom.parse setting sample ctx = .ok w := by
  cases hsample with
  | bool b => cases hbool
  | text t => exact ⟨_, _, .string, by rw [infer], fun _ _ _ => ⟨_, Leaf.parse_string t⟩⟩
  | int n => exact ⟨_, _, .int, by rw [infer]; rfl, fun _ _ _ => ⟨_, Leaf.parse_int n⟩⟩
  | @float x below =>
    cases hint : x.toInt? with
    | some n =>
      refine ⟨.int {}, .int n, .int, ?_, fun _ _ _ => ⟨_, Leaf.parse_int n⟩⟩
      rw [infer, inferNumber, hint]
    | none =>
      refine ⟨.float {}, .number (.float x), .float, ?_, fun _ _ _ =>
        ⟨_, Leaf.parse_float below.isNaN⟩⟩
      rw [infer, inferNumber, hint, below.isFinite]
      rfl
  | moment m => exact ⟨_, _, .date, by rw [infer], fun _ _ hctx => ⟨_, Leaf.parse_date hctx rfl⟩⟩
  | day d => exact ⟨_, _, .date, by rw [infer], fun _ _ hctx => ⟨_, Leaf.parse_date hctx rfl⟩⟩
  | list | tuple | dict => cases hatom

/-- Of the samples that are no lists only a truth value leads to a schema that accepts a list. -/
theorem accepts_items_iff (hsample : IsSample v) (hv : v.items?.isSome = false)
    (h : infer v = .ok s) {w : Value} (hw : w.items?.isSome = true) :
    s.Accepts setting w ctx ↔ v.isBool = true := by
  cases hbool : v.isBool with
  | true =>
    cases v with
    | bool b =>
      rw [infer] at h
      cases h
      exact iff_of_true ⟨_, Leaf.parse_boolean w⟩ rfl
    | _ => cases hbool
  | false =>
    refine iff_of_false (fun haccepts => ?_) (by decide)
    cases hatom : v.isAtom with
    | true =>
      obtain ⟨atom, sample, hleaf, hinfer, -⟩ := exists_sampleLeaf hsample hatom hbool
      cases h.symm.trans hinfer
      obtain ⟨u, hu⟩ := haccepts
      exact hleaf.parse_items_ne_ok hw u hu
    | false =>
      cases v with
      | dict entries =>
        obtain ⟨fields, -, rfl⟩ := infer_dict_eq_ok.mp h
        obtain ⟨entries, rfl, -⟩ := accepts_object_iff.mp haccepts
        cases hw
      | list items | tuple items => cases hv
      | _ => cases hatom

/-! ## Samples that are accepted -/

/-- What is inferred from a sample accepts the sample if that stands for itself. -/
def AcceptsItself (v : Value) : Prop :=
  ∀ s, infer v = .ok s → ∀ setting ctx, ctx.Plain → (s.Accepts setting v ctx ↔ StandsForItself v)

theorem acceptsItself_atom (hsample : IsSample v) (hatom : v.isAtom = true) : AcceptsItself v := by
  intro s hs setting ctx hctx
  have hself : IsInstance v v := by
    cases hsample with
    | bool b => exact .bool b
    | text t => exact .text t
    | int n => exact .number _
    | float below => exact .number _
    | moment m => exact .moment m
    | day d => exact .day d
    | list | tuple | dict => cases hatom
  exact iff_of_true (((infers_of_isSample hsample).fits s hs).accepts v hself setting ctx hctx)
    (.atom hatom)

/-! ### Lists -/

section Lists

variable {items : List Value}

/-- From a list the array of what is inferred from the first item is inferred, which accepts what is
accepted by what is inferred from any other. -/
theorem exists_first (hne : items ≠ []) (huniform : Uniform items)
    (hall : ∀ u ∈ items, IsSample u) (h : (do arrayOf (← inferFirst items) {} []) = .ok s) :
    ∃ first rest item, items = first :: rest ∧ infer first = .ok item ∧ s = .array item {} none ∧
      ∀ u ∈ items, ∃ t, infer u = .ok t ∧
        ∀ setting w ctx, item.Accepts setting w ctx ↔ t.Accepts setting w ctx := by
  obtain ⟨first, rest, rfl⟩ := List.exists_cons_of_ne_nil hne
  have hfirst : first ∈ first :: rest := List.mem_cons_self
  obtain ⟨item, -, hitem, -, -⟩ := huniform first hfirst first hfirst
  have htyped := ((infers_of_isSample (hall first hfirst)).fits item hitem).typed
  rw [inferFirst, hitem, Outcome.ok_bind, arrayOf_eq_ok htyped] at h
  cases h
  refine ⟨first, rest, item, rfl, hitem, rfl, fun u hu => ?_⟩
  obtain ⟨t, item', ht, hitem', hto⟩ := huniform u hu first hfirst
  cases hitem.symm.trans hitem'
  obtain ⟨item', t', hitem', ht', hfrom⟩ := huniform first hfirst u hu
  cases hitem.symm.trans hitem'
  cases ht.symm.trans ht'
  exact ⟨t, ht, fun setting w ctx => ⟨hfrom.accepts, hto.accepts⟩⟩

/-- A list is accepted by what is inferred from it if all of its items stand for themselves. -/
theorem accepts_items_self_iff (hne : items ≠ []) (huniform : Uniform items)
    (hall : ∀ u ∈ items, IsSample u) (ih : ∀ u ∈ items, AcceptsItself u)
    (hv : v.items? = some items) (h : (do arrayOf (← inferFirst items) {} []) = .ok s)
    (hctx : ctx.Plain) : s.Accepts setting v ctx ↔ ∀ u ∈ items, StandsForItself u := by
  obtain ⟨first, rest, item, -, -, rfl, hothers⟩ := exists_first hne huniform hall h
  refine accepts_arrayOf_iff hctx hv fun u hu ctx hctx => ?_
  obtain ⟨t, ht, hiff⟩ := hothers u hu
  exact (hiff setting u ctx).trans (ih u hu t ht setting ctx hctx)

end Lists

/-! ### Dictionaries -/

section Dictionaries

variable {entries : List (Value × Value)} {entry : Value × Value} {name : String}
  {field : Value × Schema}

/-- What stands under the name of an entry is what its field takes in. -/
structure Found (entries : List (Value × Value)) (entry : Value × Value) (name : String)
    (ms : Modifiers) : Prop where
  absent : Entries.get? (.text name) entries = none → ms.optional = true
  own : Entries.get? (.text name) entries = some entry.2 → StandsForItself entry.2
  other : ∀ v, Entries.get? (.text name) entries = some v → v ≠ entry.2 → entry.2.isBool = true

theorem found_iff_of_absent (hget : Entries.get? (.text name) entries = none) :
    Found entries entry name ms ↔ ms.optional = true := by
  refine ⟨fun h => h.absent hget, fun h => ⟨fun _ => h, ?_, ?_⟩⟩ <;> simp [hget]

theorem found_iff_of_own (hget : Entries.get? (.text name) entries = some entry.2) :
    Found entries entry name ms ↔ StandsForItself entry.2 := by
  refine ⟨fun h => h.own hget, fun h => ⟨?_, fun _ => h, ?_⟩⟩
  · simp [hget]
  · intro v hv hne
    exact absurd (Option.some.inj (hv.symm.trans hget)) hne

theorem found_iff_of_other (hget : Entries.get? (.text name) entries = some v) (hne : v ≠ entry.2) :
    Found entries entry name ms ↔ entry.2.isBool = true := by
  refine ⟨fun h => h.other v hget hne, fun h => ⟨?_, ?_, fun _ _ _ => h⟩⟩
  · simp [hget]
  · simp [hget, hne]

theorem standsForItself_dict_iff : StandsForItself (.dict entries) ↔
    ∀ entry ∈ entries, ∀ name ms, Declares entry name ms → Found entries entry name ms := by
  constructor
  · rintro (hatom | _ | _ | ⟨absent, own, other⟩)
    · cases hatom
    · exact fun entry hentry name ms hdeclares => ⟨absent entry hentry name ms hdeclares,
        own entry hentry name ms hdeclares, fun v => other entry hentry name ms v hdeclares⟩
  · intro h
    exact .dict (fun entry hentry name ms hdeclares => (h entry hentry name ms hdeclares).absent)
      (fun entry hentry name ms hdeclares => (h entry hentry name ms hdeclares).own)
      fun entry hentry name ms v hdeclares => (h entry hentry name ms hdeclares).other v

theorem tag_of_unmodified (henums : ms.enums = true → ∃ members, Enumerates v members)
    (h : unmodified ms v = .ok s) : s.tag = .none := by
  cases hms : ms.enums with
  | true =>
    obtain ⟨members, hmembers⟩ := henums hms
    rw [unmodified_members hms hmembers.items, enumerationOf_eq hmembers.nonempty] at h
    obtain ⟨type, -, h⟩ := bind_eq_ok.mp h
    cases h
    rfl
  | false => exact tag_of_infer (unmodified_value hms ▸ h)

theorem isAbsent_of_items (h : v.items?.isSome = true) : v.isAbsent = false := by
  cases v with
  | list items | tuple items => rfl
  | _ => cases h

/-- What stands in a sample is there. -/
theorem isAbsent_eq_false (henums : ms.enums = true → ∃ members, Enumerates v members)
    (hvalue : ms.enums = false → IsSample v) : v.isAbsent = false := by
  cases hms : ms.enums with
  | true =>
    obtain ⟨members, hmembers⟩ := henums hms
    exact isAbsent_of_items (Option.isSome_of_eq_some hmembers.items)
  | false => cases hvalue hms <;> rfl

/-- A field accepts what stands under the name of its entry if it takes that in. -/
theorem accepts_found_iff (hkeys : ∀ entry ∈ entries, ∃ key, entry.1 = .text key)
    (hnames : NamesDiffer entries) (hentry : entry ∈ entries) (hdeclares : Declares entry name ms)
    (hvalue : ms.enums = false → IsSample entry.2)
    (ih : ms.enums = false → AcceptsItself entry.2) (hs : unmodified ms entry.2 = .ok s)
    (htyped : s.Typed) (hget : Entries.get? (.text name) entries = some v) (hctx : ctx.Plain) :
    (wrapped ms s).Accepts setting v ctx ↔ Found entries entry name ms := by
  rcases found_under_name hkeys hnames hentry hdeclares hget with ⟨rfl, rfl⟩ | ⟨hlisted, hbare⟩
  · exact (ih rfl s hs setting ctx hctx).trans (found_iff_of_own hget).symm
  · have hms : ms.enums = false := by
      obtain ⟨key, -, hstrips⟩ := hdeclares
      exact Bool.eq_false_iff.mpr fun henums =>
        Bool.false_ne_true (hbare.symm.trans (hstrips.listed_of_enums henums))
    have hne : v ≠ entry.2 := fun heq => Bool.false_ne_true (hbare.symm.trans (heq ▸ hlisted))
    have hnull : v ≠ .null := fun heq => by simp [heq, Value.items?] at hlisted
    have hinfer : infer entry.2 = .ok s := unmodified_value hms ▸ hs
    rw [found_iff_of_other hget hne]
    exact accepts_wrapped_iff ms htyped hnull
      (fun ctx _ => accepts_items_iff (hvalue hms) hbare hinfer hlisted) hctx

/-- The field of an entry is left out or finds what it takes in. -/
theorem fieldYields_iff (hkeys : ∀ entry ∈ entries, ∃ key, entry.1 = .text key)
    (hnames : NamesDiffer entries) (hentry : entry ∈ entries) (hdeclares : Declares entry name ms)
    (henums : ms.enums = true → ∃ members, Enumerates entry.2 members)
    (hvalue : ms.enums = false → IsSample entry.2)
    (ih : ms.enums = false → AcceptsItself entry.2)
    (hfield : inferField entry.1 entry.2 = .ok field) (hctx : ctx.Plain) :
    (leavesOut entries field = false → ∃ w, FieldYields setting ctx entries field w) ↔
      Found entries entry name ms := by
  rw [inferField_eq hdeclares] at hfield
  obtain ⟨t, ht, rfl⟩ := map_eq_ok.mp hfield
  obtain ⟨s, hs, ht⟩ := bind_eq_ok.mp ht
  have htyped := (infersField henums fun hms => infers_of_isSample (hvalue hms)).typed s hs
  obtain ⟨t', ht', htyped', -, -⟩ := exists_modified ms htyped
  cases ht.symm.trans ht'
  obtain ⟨rfl, -⟩ := modified_eq_ok.mp ht
  have htag := tag_wrapped ms (tag_of_unmodified henums hs)
  rw [exists_fieldYields_iff, leavesOut]
  cases hget : Entries.get? (.text name) entries with
  | none =>
    rw [found_iff_of_absent hget, htag]
    cases ms.optional <;> simp
  | some v =>
    obtain ⟨inner, hinner, hplain⟩ := hctx.child name
    have hpresent : v.isAbsent = false := by
      rcases found_under_name hkeys hnames hentry hdeclares hget with ⟨rfl, -⟩ | ⟨hlisted, -⟩
      · exact isAbsent_eq_false henums hvalue
      · exact isAbsent_of_items hlisted
    have hfound : (wrapped ms s).Accepts setting v inner ↔ Found entries entry name ms :=
      accepts_found_iff hkeys hnames hentry hdeclares hvalue ih hs htyped.here hget hplain
    simp [hpresent, hinner, require_of_typed htyped'.here, hfound]

theorem standsForItself_of_forall₂ {fields : List (String × Modifiers)}
    (h : List.Forall₂ (fun entry field => Declares entry field.1 field.2 ∧
      Found entries entry field.1 field.2) entries fields) : StandsForItself (.dict entries) := by
  refine standsForItself_dict_iff.mpr fun entry hentry name ms hdeclares => ?_
  obtain ⟨field, -, hdeclares', hfound⟩ := Outcome.exists_mem_of_forall₂ h hentry
  obtain ⟨rfl, rfl⟩ := hdeclares.unique hdeclares'
  exact hfound

/-- A dictionary is accepted by what is inferred from it if all of its fields find what they take
in. -/
theorem accepts_dict_self_iff (hkeys : ∀ entry ∈ entries, ∃ key, entry.1 = .text key)
    (hnames : NamesDiffer entries)
    (henums : ∀ entry ∈ entries, ∀ name ms, Declares entry name ms → ms.enums = true →
      ∃ members, Enumerates entry.2 members)
    (hvalues : ∀ entry ∈ entries, ∀ name ms, Declares entry name ms → ms.enums = false →
      IsSample entry.2)
    (ih : ∀ entry ∈ entries, ∀ name ms, Declares entry name ms → ms.enums = false →
      AcceptsItself entry.2) : AcceptsItself (.dict entries) := by
  intro s hs setting ctx hctx
  obtain ⟨fields, hfields, rfl⟩ := infer_dict_eq_ok.mp hs
  have hobject : (object (Entries.ofList fields) (some { value := some (.dict entries) })).Accepts
      setting (.dict entries) ctx ↔ ∀ field ∈ fields, leavesOut entries field = false →
        ∃ w, FieldYields setting ctx entries field w := by
    rw [Entries.ofList_of_distinct (distinct_of_inferFields hkeys hnames hfields),
      accepts_object_iff]
    simp
  rw [inferFields_eq_mapM] at hfields
  rw [hobject, standsForItself_dict_iff, Outcome.forall_mem_mapM_iff hfields]
  refine forall₂_congr fun entry hentry => ?_
  obtain ⟨name, ms, hdeclares⟩ := exists_declares (hkeys entry hentry)
  obtain ⟨field, hfield⟩ : ∃ field, inferField entry.1 entry.2 = .ok field :=
    Outcome.exists_mapM_eq_ok_iff.mp ⟨fields, hfields⟩ entry hentry
  have hiff : (leavesOut entries field = false → ∃ w, FieldYields setting ctx entries field w) ↔
      Found entries entry name ms :=
    fieldYields_iff hkeys hnames hentry hdeclares (henums entry hentry name ms hdeclares)
      (hvalues entry hentry name ms hdeclares) (ih entry hentry name ms hdeclares) hfield hctx
  constructor
  · intro h name' ms' hdeclares'
    obtain ⟨rfl, rfl⟩ := hdeclares.unique hdeclares'
    exact hiff.mp (h field hfield)
  · intro h field' hfield'
    cases hfield.symm.trans hfield'
    exact hiff.mpr (h name ms hdeclares)

end Dictionaries

/-! ### All samples -/

/-- What is inferred from a sample accepts the sample if that stands for itself. -/
theorem accepts_self_iff (hsample : IsSample v) : AcceptsItself v := by
  induction hsample with
  | bool b => exact acceptsItself_atom (.bool b) rfl
  | text t => exact acceptsItself_atom (.text t) rfl
  | int n => exact acceptsItself_atom (.int n) rfl
  | float below => exact acceptsItself_atom (.float below) rfl
  | moment m => exact acceptsItself_atom (.moment m) rfl
  | day d => exact acceptsItself_atom (.day d) rfl
  | list nonempty uniform all ih =>
    intro s hs setting ctx hctx
    rw [infer] at hs
    rw [accepts_items_self_iff nonempty uniform all ih rfl hs hctx]
    refine ⟨.list, fun h => ?_⟩
    cases h with
    | atom hatom => cases hatom
    | list all => exact all
  | tuple nonempty uniform all ih =>
    intro s hs setting ctx hctx
    rw [infer] at hs
    rw [accepts_items_self_iff nonempty uniform all ih rfl hs hctx]
    refine ⟨.tuple, fun h => ?_⟩
    cases h with
    | atom hatom => cases hatom
    | tuple all => exact all
  | dict keys names enums values ih => exact accepts_dict_self_iff keys names enums values ih

/-! ## Sample values -/

theorem accepts_sampleValue_atom (hsample : IsSample v) (hatom : v.isAtom = true)
    (hs : infer v = .ok s) (hctx : ctx.Plain) : s.Accepts setting s.sampleValue ctx := by
  cases hbool : v.isBool with
  | true =>
    cases v with
    | bool b =>
      rw [infer] at hs
      cases hs
      exact ⟨_, Leaf.parse_boolean _⟩
    | _ => cases hbool
  | false =>
    obtain ⟨atom, sample, -, hinfer, haccepts⟩ := exists_sampleLeaf hsample hatom hbool
    cases hs.symm.trans hinfer
    exact haccepts setting ctx hctx

/-- The sample value of an array is made from that of its item. -/
theorem accepts_sampleValue_array {item : Schema} {P : Prop} (hctx : ctx.Plain)
    (h : ∀ ctx, ctx.Plain → (item.Accepts setting item.sampleValue ctx ↔ P)) :
    (array item {} none).Accepts setting (array item {} none).sampleValue ctx ↔ P := by
  have hitems : (array item {} none).sampleValue.items? = some [item.sampleValue] := rfl
  have hiff : (array item {} none).Accepts setting (array item {} none).sampleValue ctx ↔
      ∀ w ∈ [item.sampleValue], P :=
    accepts_arrayOf_iff hctx hitems fun w hw ctx hctx => List.mem_singleton.mp hw ▸ h ctx hctx
  simpa using hiff

/-- What is inferred from a sample accepts its own sample value if that stands for itself. -/
theorem accepts_sampleValue_iff (hsample : IsSample v) (hs : infer v = .ok s) (setting : Setting)
    (hctx : ctx.Plain) :
    (∃ w, s.parse setting s.sampleValue ctx = .ok w) ↔ HasOwnSample v := by
  induction hsample generalizing s ctx with
  | bool b => exact iff_of_true (accepts_sampleValue_atom (.bool b) rfl hs hctx) (.atom rfl)
  | text t => exact iff_of_true (accepts_sampleValue_atom (.text t) rfl hs hctx) (.atom rfl)
  | int n => exact iff_of_true (accepts_sampleValue_atom (.int n) rfl hs hctx) (.atom rfl)
  | float below =>
    exact iff_of_true (accepts_sampleValue_atom (.float below) rfl hs hctx) (.atom rfl)
  | moment m => exact iff_of_true (accepts_sampleValue_atom (.moment m) rfl hs hctx) (.atom rfl)
  | day d => exact iff_of_true (accepts_sampleValue_atom (.day d) rfl hs hctx) (.atom rfl)
  | list nonempty uniform all ih =>
    rw [infer] at hs
    obtain ⟨first, rest, item, rfl, hitem, rfl, -⟩ := exists_first nonempty uniform all hs
    refine (accepts_sampleValue_array hctx fun ctx hctx =>
      ih first List.mem_cons_self hitem hctx).trans ⟨.list, fun h => ?_⟩
    cases h with
    | atom hatom => cases hatom
    | list own => exact own
  | tuple nonempty uniform all ih =>
    rw [infer] at hs
    obtain ⟨first, rest, item, rfl, hitem, rfl, -⟩ := exists_first nonempty uniform all hs
    refine (accepts_sampleValue_array hctx fun ctx hctx =>
      ih first List.mem_cons_self hitem hctx).trans ⟨.tuple, fun h => ?_⟩
    cases h with
    | atom hatom => cases hatom
    | tuple own => exact own
  | dict keys names enums values ih =>
    have hiff := accepts_self_iff (.dict keys names enums values) s hs setting ctx hctx
    obtain ⟨fields, -, rfl⟩ := infer_dict_eq_ok.mp hs
    refine hiff.trans ⟨.dict, fun h => ?_⟩
    cases h with
    | atom hatom => cases hatom
    | dict itself => exact itself

/-- A draft with a note that may be left out. -/
def draft : Value :=
  .dict [(.text "id", .int 1), (.text "note?", .text "new"), (.text "final", .bool false)]

/-- The fields of a draft. -/
def draftFields : List (String × Modifiers) :=
  [("id", {}), ("note", { optional := true }), ("final", {})]

theorem accepts_sampleValue_iff_draft : IsSample draft ∧ HasOwnSample draft ∧
    ∃ s, infer draft = .ok s ∧ ∃ w, s.parse "en" s.sampleValue .root = .ok w := by
  have hsample : IsSample draft := isSample_dict draftFields
    (.cons (hasSample_value rfl rfl (.int 1)) (.cons (hasSample_value rfl rfl (.text _))
      (.cons (hasSample_value rfl rfl (.bool false)) .nil))) (by decide)
  have hown : HasOwnSample draft := .dict <| @standsForItself_of_forall₂ _ draftFields <|
    .cons ⟨declares_iff.mpr rfl, (found_iff_of_own rfl).mpr (.atom rfl)⟩ <|
    .cons ⟨declares_iff.mpr rfl, (found_iff_of_absent rfl).mpr rfl⟩ <|
    .cons ⟨declares_iff.mpr rfl, (found_iff_of_own rfl).mpr (.atom rfl)⟩ .nil
  obtain ⟨s, hs⟩ : ∃ s, infer draft = .ok s := ⟨_, rfl⟩
  exact ⟨hsample, hown, s, hs,
    (accepts_sampleValue_iff hsample hs "en" Context.plain_root).mpr hown⟩

/-- A status that is one of two. -/
def statusChoice : Value :=
  .dict [(.text "status$enums", .list [.text "a", .text "b"])]

/-- Not every schema that is inferred accepts its own sample value. -/
theorem not_forall_accepts_sampleValue : ¬ ∀ (v : Value) (s : Schema), IsSample v →
    infer v = .ok s → ∃ w, s.parse "en" s.sampleValue .root = .ok w := by
  intro h
  have hdeclares : Declares (.text "status$enums", .list [.text "a", .text "b"]) "status"
      { enums := true } := declares_iff.mpr rfl
  have hmembers : Enumerates (.list [.text "a", .text "b"]) [.text "a", .text "b"] :=
    @enumerates_texts ["a", "b"] (by simp)
  have hsample : IsSample statusChoice := isSample_dict [("status", { enums := true })]
    (.cons (hasSample_members rfl rfl hmembers) .nil) (by decide)
  obtain ⟨s, hs⟩ : ∃ s, infer statusChoice = .ok s := ⟨_, rfl⟩
  have haccepts := h statusChoice s hsample hs
  obtain ⟨fields, -, rfl⟩ := infer_dict_eq_ok.mp hs
  have hself := (accepts_self_iff hsample _ hs "en" .root Context.plain_root).mp haccepts
  -- Nothing stands under the name alone, and the field may not be left out.
  have hfound := standsForItself_dict_iff.mp hself _ List.mem_cons_self _ _ hdeclares
  exact absurd (hfound.absent rfl) (by decide)

end Schema

end Intake
