import Intake.Proofs.Numeric.Whole
import Intake.Proofs.Schema.Accepts
import Intake.Proofs.Schema.Modifiers
import Intake.Proofs.Value.Entries
import Intake.Proofs.Value.Json

/-!
# Samples and their instances

A sample object has a name with modifiers for each key, and these tell what its fields may hold.  An
instance of a sample has the names for keys, members in the places of their lists, and null or
nothing where a field allows it.

## Main definitions

* `Declares` — what a key says about its field.
* `IsSample` — the samples that schemas are inferred from.
* `HoldsEnum` — the lists of members in a sample.
* `IsInstance` — the values that a sample stands for.

## Main statements

* `exists_declares` — a key of text declares a field.
* `get?_of_areFilled` — what an instance has for a field.
-/

namespace Intake

open Numeric (Number Binary64)

/-! ## Samples -/

/-- An entry of a sample object declares a field: its key is a name with modifiers after it. -/
def Declares (entry : Value × Value) (name : String) (ms : Modifiers) : Prop :=
  ∃ key, entry.1 = .text key ∧ Strips entry.2.items?.isSome key.toList name.toList ms

/-- No two entries declare fields of the same name. -/
def NamesDiffer (entries : List (Value × Value)) : Prop :=
  entries.Pairwise fun a b =>
    ∀ name ms name' ms', Declares a name ms → Declares b name' ms' → name ≠ name'

/-- A value lists some members, not-a-number not among them. -/
structure Enumerates (v : Value) (members : List Value) : Prop where
  items : v.items? = some members
  nonempty : members ≠ []
  numbers : ∀ member ∈ members, member.kind ≠ .nan
  keys : (Value.list members).TextKeyed

theorem enumerates_texts {texts : List String} (hne : texts ≠ []) :
    Enumerates (.list (texts.map Value.text)) (texts.map Value.text) := by
  refine ⟨rfl, by simpa using hne, by simp [Value.kind], fun entries hholds => ?_⟩
  cases hholds with
  | item hv hholds =>
    obtain ⟨text, -, rfl⟩ := List.mem_map.mp hv
    cases hholds

/-- The same schema is inferred from all items, samples and the order of fields aside. -/
def Uniform (items : List Value) : Prop :=
  ∀ v ∈ items, ∀ w ∈ items, ∃ s t,
    Schema.infer v = .ok s ∧ Schema.infer w = .ok t ∧ s.Resembles t

/-- The samples that schemas are inferred from. -/
inductive IsSample : Value → Prop
  | bool (b : Bool) : IsSample (.bool b)
  | text (s : String) : IsSample (.text s)
  | int (n : Int) : IsSample (.number (.int n))
  | float {x : Binary64} (below : x.Below (10 ^ 15)) : IsSample (.number (.float x))
  | moment (m : Calendar.Moment) : IsSample (.moment m)
  | day (d : Calendar.Day) : IsSample (.day d)
  | list {items : List Value} (nonempty : items ≠ []) (uniform : Uniform items)
      (all : ∀ v ∈ items, IsSample v) : IsSample (.list items)
  | tuple {items : List Value} (nonempty : items ≠ []) (uniform : Uniform items)
      (all : ∀ v ∈ items, IsSample v) : IsSample (.tuple items)
  | dict {entries : List (Value × Value)}
      (keys : ∀ entry ∈ entries, ∃ key, entry.1 = .text key)
      (names : NamesDiffer entries)
      (enums : ∀ entry ∈ entries, ∀ name ms, Declares entry name ms → ms.enums = true →
        ∃ members, Enumerates entry.2 members)
      (values : ∀ entry ∈ entries, ∀ name ms, Declares entry name ms → ms.enums = false →
        IsSample entry.2) : IsSample (.dict entries)

/-- A list of members stands somewhere in a sample. -/
inductive HoldsEnum (members : List Value) : Value → Prop
  | enum {entries : List (Value × Value)} {entry : Value × Value} {name : String} {ms : Modifiers}
      (mem : entry ∈ entries) (declares : Declares entry name ms) (enums : ms.enums = true)
      (items : entry.2.items? = some members) : HoldsEnum members (.dict entries)
  | value {entries : List (Value × Value)} {entry : Value × Value} {name : String} {ms : Modifiers}
      (mem : entry ∈ entries) (declares : Declares entry name ms) (enums : ms.enums = false)
      (holds : HoldsEnum members entry.2) : HoldsEnum members (.dict entries)
  | item {items : List Value} {v : Value} (mem : v ∈ items) (holds : HoldsEnum members v) :
      HoldsEnum members (.list items)
  | member {items : List Value} {v : Value} (mem : v ∈ items) (holds : HoldsEnum members v) :
      HoldsEnum members (.tuple items)

/-! ## Instances -/

mutual

/-- The values that a sample stands for. -/
inductive IsInstance : Value → Value → Prop
  | bool (b : Bool) : IsInstance (.bool b) (.bool b)
  | text (s : String) : IsInstance (.text s) (.text s)
  | number (n : Number) : IsInstance (.number n) (.number n)
  | moment (m : Calendar.Moment) : IsInstance (.moment m) (.moment m)
  | day (d : Calendar.Day) : IsInstance (.day d) (.day d)
  | list {items out : List Value} (all : AreInstances items out) :
      IsInstance (.list items) (.list out)
  | tuple {items out : List Value} (all : AreInstances items out) :
      IsInstance (.tuple items) (.tuple out)
  | dict {entries out : List (Value × Value)} (filled : AreFilled entries out) :
      IsInstance (.dict entries) (.dict out)

/-- The lists that the items of a sample stand for. -/
inductive AreInstances : List Value → List Value → Prop
  | nil : AreInstances [] []
  | cons {v w : Value} {items out : List Value} (head : IsInstance v w)
      (tail : AreInstances items out) : AreInstances (v :: items) (w :: out)

/-- The values that a field of a sample stands for: null where it may be null, a member of an
enumeration, or an instance of the value. -/
inductive Fills : Modifiers → Value → Value → Prop
  | null {ms : Modifiers} {v : Value} (nullable : ms.nullable = true) : Fills ms v .null
  | member {ms : Modifiers} {v w : Value} {members : List Value} (enums : ms.enums = true)
      (items : v.items? = some members) (mem : w ∈ members) : Fills ms v w
  | value {ms : Modifiers} {v w : Value} (enums : ms.enums = false) (holds : IsInstance v w) :
      Fills ms v w

/-- The dictionaries that the entries of a sample stand for: each entry goes by its name, and those
of optional fields may be left out. -/
inductive AreFilled : List (Value × Value) → List (Value × Value) → Prop
  | nil : AreFilled [] []
  | leftOut {entry : Value × Value} {entries out : List (Value × Value)} {name : String}
      {ms : Modifiers} (declares : Declares entry name ms) (optional : ms.optional = true)
      (rest : AreFilled entries out) : AreFilled (entry :: entries) out
  | filled {entry : Value × Value} {entries out : List (Value × Value)} {name : String}
      {ms : Modifiers} {w : Value} (declares : Declares entry name ms) (fills : Fills ms entry.2 w)
      (rest : AreFilled entries out) : AreFilled (entry :: entries) ((.text name, w) :: out)

end

/-! ## Declared fields -/

namespace Declares

variable {entry : Value × Value} {name name' : String} {ms ms' : Modifiers}

theorem unique (h : Declares entry name ms) (h' : Declares entry name' ms') :
    name = name' ∧ ms = ms' := by
  obtain ⟨key, hkey, hstrips⟩ := h
  obtain ⟨key', hkey', hstrips'⟩ := h'
  obtain rfl : key = key' := Value.text.inj (hkey.symm.trans hkey')
  have heq := (peel_eq_iff.mpr hstrips).symm.trans (peel_eq_iff.mpr hstrips')
  obtain ⟨hname, rfl⟩ := Prod.mk.inj heq
  exact ⟨String.ext hname, rfl⟩

end Declares

theorem exists_declares {entry : Value × Value} (h : ∃ key, entry.1 = .text key) :
    ∃ name ms, Declares entry name ms := by
  obtain ⟨key, hkey⟩ := h
  obtain ⟨name, ms, hstrips⟩ := exists_strips entry.2.items?.isSome key.toList
  exact ⟨String.ofList name, ms, key, hkey, by rwa [String.toList_ofList]⟩

theorem declares_iff {key name : String} {v : Value} {ms : Modifiers} :
    Declares (.text key, v) name ms ↔ peel v.items?.isSome key.toList = (name.toList, ms) := by
  rw [peel_eq_iff]
  constructor
  · rintro ⟨_, ⟨⟩, hstrips⟩
    exact hstrips
  · intro hstrips
    exact ⟨key, rfl, hstrips⟩

/-- An entry declares a field of the given name and modifiers, and has a sample for it. -/
structure HasSample (entry : Value × Value) (field : String × Modifiers) : Prop where
  declares : Declares entry field.1 field.2
  enums : field.2.enums = true → ∃ members, Enumerates entry.2 members
  value : field.2.enums = false → IsSample entry.2

section HasSample

variable {entries : List (Value × Value)} {fields : List (String × Modifiers)} {key name : String}
  {v : Value} {members : List Value} {ms : Modifiers}

theorem hasSample_value (hkey : peel v.items?.isSome key.toList = (name.toList, ms))
    (hms : ms.enums = false) (h : IsSample v) : HasSample (.text key, v) (name, ms) where
  declares := declares_iff.mpr hkey
  enums := fun henums => absurd (hms.symm.trans henums) (by decide)
  value := fun _ => h

theorem hasSample_members (hkey : peel v.items?.isSome key.toList = (name.toList, ms))
    (hms : ms.enums = true) (h : Enumerates v members) : HasSample (.text key, v) (name, ms) where
  declares := declares_iff.mpr hkey
  enums := fun _ => ⟨members, h⟩
  value := fun hnone => absurd (hms.symm.trans hnone) (by decide)

theorem exists_hasSample (h : List.Forall₂ HasSample entries fields) {entry : Value × Value}
    (hentry : entry ∈ entries) : ∃ field ∈ fields, HasSample entry field := by
  induction h with
  | nil => simp at hentry
  | cons hhead htail ih =>
    rcases List.mem_cons.mp hentry with rfl | hentry
    · exact ⟨_, List.mem_cons_self, hhead⟩
    · obtain ⟨field, hfield, hsample⟩ := ih hentry
      exact ⟨field, List.mem_cons_of_mem _ hfield, hsample⟩

theorem namesDiffer_of_nodup (h : List.Forall₂ HasSample entries fields)
    (hnames : (fields.map Prod.fst).Nodup) : NamesDiffer entries := by
  induction h with
  | nil => exact .nil
  | @cons entry field entries fields hhead htail ih =>
    obtain ⟨hnew, hnames⟩ := List.nodup_cons.mp hnames
    refine .cons (fun other hother name ms name' ms' hdeclares hdeclares' heq => hnew ?_)
      (ih hnames)
    obtain ⟨field', hfield', hsample⟩ := exists_hasSample htail hother
    obtain ⟨rfl, -⟩ := hhead.declares.unique hdeclares
    obtain ⟨rfl, -⟩ := hsample.declares.unique hdeclares'
    exact heq ▸ List.mem_map_of_mem hfield'

/-- A dictionary whose entries have samples for fields of different names is a sample. -/
theorem isSample_dict (fields : List (String × Modifiers))
    (h : List.Forall₂ HasSample entries fields) (hnames : (fields.map Prod.fst).Nodup) :
    IsSample (.dict entries) := by
  refine .dict (fun entry hentry => ?_) (namesDiffer_of_nodup h hnames)
    (fun entry hentry name ms hdeclares => ?_) (fun entry hentry name ms hdeclares => ?_) <;>
    obtain ⟨field, -, hsample⟩ := exists_hasSample h hentry
  · obtain ⟨key, hkey, -⟩ := hsample.declares
    exact ⟨key, hkey⟩
  · obtain ⟨-, rfl⟩ := hsample.declares.unique hdeclares
    exact hsample.enums
  · obtain ⟨-, rfl⟩ := hsample.declares.unique hdeclares
    exact hsample.value

end HasSample

/-! ## What instances have -/

theorem exists_of_mem_areInstances {items out : List Value} (h : AreInstances items out) {w : Value}
    (hw : w ∈ out) : ∃ v ∈ items, IsInstance v w := by
  induction items generalizing out with
  | nil =>
    cases h
    simp at hw
  | cons v items ih =>
    cases h with
    | cons head tail =>
      rcases List.mem_cons.mp hw with rfl | hw
      · exact ⟨v, List.mem_cons_self, head⟩
      · obtain ⟨v', hv', hinstance⟩ := ih tail hw
        exact ⟨v', List.mem_cons_of_mem _ hv', hinstance⟩

/-- Only declared names come to be keys. -/
theorem exists_declares_of_mem {entries out : List (Value × Value)} (h : AreFilled entries out)
    {binding : Value × Value} (hb : binding ∈ out) :
    ∃ entry ∈ entries, ∃ name ms, Declares entry name ms ∧ binding.1 = .text name := by
  induction entries generalizing out with
  | nil =>
    cases h
    simp at hb
  | cons entry entries ih =>
    cases h with
    | leftOut declares optional rest =>
      obtain ⟨entry', hentry', hdeclares⟩ := ih rest hb
      exact ⟨entry', List.mem_cons_of_mem _ hentry', hdeclares⟩
    | filled declares fills rest =>
      rcases List.mem_cons.mp hb with rfl | hb
      · exact ⟨entry, List.mem_cons_self, _, _, declares, rfl⟩
      · obtain ⟨entry', hentry', hdeclares⟩ := ih rest hb
        exact ⟨entry', List.mem_cons_of_mem _ hentry', hdeclares⟩

/-- Where names differ, what is bound to a name fills its field; nothing is bound to it only if the
field is optional. -/
theorem get?_of_areFilled {entries out : List (Value × Value)} (hnames : NamesDiffer entries)
    (h : AreFilled entries out) {entry : Value × Value} (hentry : entry ∈ entries) {name : String}
    {ms : Modifiers} (hdeclares : Declares entry name ms) :
    Entries.get? (.text name) out = none ∧ ms.optional = true ∨
      ∃ w, Entries.get? (.text name) out = some w ∧ Fills ms entry.2 w := by
  induction entries generalizing out with
  | nil => simp at hentry
  | cons first entries ih =>
    obtain ⟨hfirst, hrest⟩ := List.pairwise_cons.mp hnames
    cases h with
    | leftOut declares optional rest =>
      rcases List.mem_cons.mp hentry with rfl | hentry
      · obtain ⟨rfl, rfl⟩ := hdeclares.unique declares
        -- The entries after this one go by other names.
        refine .inl ⟨Entries.get?_of_forall fun binding hb => ?_, optional⟩
        obtain ⟨other, hother, name', ms', hdeclares', hkey⟩ := exists_declares_of_mem rest hb
        have hne := hfirst other hother _ _ _ _ hdeclares hdeclares'
        simpa [hkey, eq_comm] using hne
      · exact ih hrest rest hentry
    | @filled _ _ out' name' _ w declares fills rest =>
      rcases List.mem_cons.mp hentry with rfl | hentry
      · obtain ⟨rfl, rfl⟩ := hdeclares.unique declares
        exact .inr ⟨w, by simp [Entries.get?], fills⟩
      · have hne : name' ≠ name := hfirst entry hentry _ _ _ _ declares hdeclares
        have hskip : Entries.get? (.text name) ((.text name', w) :: out') =
            Entries.get? (.text name) out' := by
          rw [Entries.get?, Value.sameKey_text, decide_eq_false hne]
          rfl
        rw [hskip]
        exact ih hrest rest hentry

end Intake
