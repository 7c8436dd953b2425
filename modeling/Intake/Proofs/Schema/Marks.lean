import Intake.Proofs.Schema.Infer

/-!
# Keys with marks

A mark is one way to write a modifier.  The marks after a name may come in any order and any number:
all are taken off, and only the kinds of modifiers among them count.  The field is then what the
value stands for, once nullable and once optional at most, unless the type of an enumeration or of a
nullable schema cannot be written.

## Main definitions

* `Mark`, `markedKey` — names with marks after them.
* `Modifiers.ofMarks` — the kinds of modifiers among some marks.
* `Schema.Content`, `Schema.wrapped` — what a field is without its modifiers, and with them.

## Main statements

* `peelFrom_markedKey` — as many rounds as there are marks take all of them off.
* `Schema.typed_of_infer` — a schema that is inferred from a sample with text for keys has a type.
* `Schema.inferField_markedKey` — the field of a key with marks.
-/

namespace Intake

open Outcome (bind_eq_ok map_eq_ok)

/-! ## Marks -/

/-- A way to write a modifier at the end of a key. -/
structure Mark where
  modifier : Modifier
  text : String
  mem_suffixes : text ∈ modifier.suffixes

/-- A name with marks after it. -/
def markedKey (name : String) (marks : List Mark) : String :=
  name ++ String.join (marks.map Mark.text)

/-- The kinds of modifiers among some marks. -/
def Modifiers.ofMarks (marks : List Mark) : Modifiers where
  enums := marks.any (·.modifier = .enums)
  nullable := marks.any (·.modifier = .nullable)
  optional := marks.any (·.modifier = .optional)

/-- A name that ends in no mark. -/
def Unmarked (name : String) : Prop :=
  ∀ mark : Mark, ¬ mark.text.toList <:+ name.toList

theorem toList_markedKey_concat (name : String) (marks : List Mark) (mark : Mark) :
    (markedKey name (marks ++ [mark])).toList =
      (markedKey name marks).toList ++ mark.text.toList := by
  simp [markedKey, String.toList_join]

theorem Modifiers.ofMarks_concat (marks : List Mark) (mark : Mark) :
    ofMarks (marks ++ [mark]) = (ofMarks marks).with mark.modifier := by
  cases hmodifier : mark.modifier <;> simp [ofMarks, Modifiers.with, hmodifier]

/-- Marks of the same kinds say the same. -/
theorem Modifiers.ofMarks_congr {marks marks' : List Mark}
    (h : ∀ m, (∃ mark ∈ marks, mark.modifier = m) ↔ ∃ mark ∈ marks', mark.modifier = m) :
    ofMarks marks = ofMarks marks' := by
  have hany : ∀ m, marks.any (·.modifier = m) = marks'.any (·.modifier = m) := by
    intro m
    rw [Bool.eq_iff_iff, List.any_eq_true, List.any_eq_true]
    simpa using h m
  simp only [ofMarks, hany]

/-- The marks that may stand there are the few that are written down. -/
theorem unmarked_iff {name : String} : Unmarked name ↔
    ∀ m ∈ Modifier.all, ∀ s ∈ m.suffixes, s.toList.isSuffixOf name.toList = false := by
  constructor
  · intro h m _ s hs
    exact Bool.eq_false_iff.mpr fun hsuffix => h ⟨m, s, hs⟩ (List.isSuffixOf_iff_suffix.mp hsuffix)
  · intro h mark hsuffix
    have hnone := h mark.modifier mark.modifier.mem_all mark.text mark.mem_suffixes
    rw [List.isSuffixOf_iff_suffix.mpr hsuffix] at hnone
    cases hnone

/-! ## Taking marks off -/

section Peel

variable {listed : Bool} {name : String} {marks : List Mark}

theorem Mark.writes {mark : Mark} (h : mark.modifier = .enums → listed = true) :
    mark.modifier.Writes listed mark.text.toList :=
  ⟨h, mark.text, mark.mem_suffixes, rfl⟩

theorem Unmarked.not_writes (h : Unmarked name) :
    ∀ (m : Modifier) (suffix : List Char), m.Writes listed suffix → ¬ suffix <:+ name.toList := by
  rintro m _ ⟨-, s, hs, rfl⟩
  exact h ⟨m, s, hs⟩

/-- A key with marks is its name with what the marks say. -/
theorem strips_markedKey (hname : Unmarked name)
    (hlisted : ∀ mark ∈ marks, mark.modifier = .enums → listed = true) :
    Strips listed (markedKey name marks).toList name.toList (.ofMarks marks) := by
  induction marks using List.reverseRecOn with
  | nil =>
    have hkey : markedKey name [] = name := by simp [markedKey, String.join]
    rw [hkey]
    exact .bare hname.not_writes
  | append_singleton marks mark ih =>
    obtain ⟨hlisted, hmark⟩ := List.forall_mem_append.mp hlisted
    rw [toList_markedKey_concat, Modifiers.ofMarks_concat]
    exact .modifier (ih hlisted) (mark.writes (hmark mark List.mem_cons_self))

/-- As many rounds as there are marks take all of them off, and further ones take off nothing. -/
theorem peelFrom_markedKey (hname : Unmarked name)
    (hlisted : ∀ mark ∈ marks, mark.modifier = .enums → listed = true) {fuel : Nat}
    (hfuel : marks.length ≤ fuel) (found : Modifiers) :
    peelFrom listed fuel (markedKey name marks).toList found =
      (name.toList, found.join (.ofMarks marks)) := by
  induction marks using List.reverseRecOn generalizing fuel found with
  | nil =>
    have hkey : markedKey name [] = name := by simp [markedKey, String.join]
    have hjoin : found.join (.ofMarks []) = found := found.join_empty
    have hnone : peelOne? listed name.toList = none := peelOne?_eq_none_iff.mpr hname.not_writes
    rw [hkey, hjoin]
    cases fuel <;> simp [peelFrom, hnone]
  | append_singleton marks mark ih =>
    obtain ⟨hlisted, hmark⟩ := List.forall_mem_append.mp hlisted
    rw [List.length_append, List.length_singleton] at hfuel
    obtain ⟨fuel, rfl⟩ : ∃ n, fuel = n + 1 := ⟨fuel - 1, by omega⟩
    rw [toList_markedKey_concat, peelFrom,
      peelOne?_append (mark.writes (hmark mark List.mem_cons_self))]
    dsimp only
    rw [ih hlisted (by omega), Modifiers.with_join, Modifiers.ofMarks_concat]

end Peel

namespace Schema

/-! ## Types of inferred schemas -/

section Types

variable {v : Value} {s : Schema} {ms : Modifiers}

theorem every_typed_leaf {atom : Leaf} {samples : Option SampleOptions} {type : String}
    (h : atom.signature = .ok type) : (leaf atom samples).Every Typed :=
  every_leaf.mpr ⟨type, h, Leaf.signature_ne_empty h⟩

/-- What an enumeration is, samples aside, and that its members can be written. -/
theorem ofMembers_eq_ok {members : List Value} {samples : Keywords}
    (h : ofMembers members samples = .ok s) : ∃ atom type options,
      ofMembers members [] = .ok (.leaf atom none) ∧ s = .leaf atom options ∧
        atom.signature = .ok type := by
  rw [ofMembers] at h ⊢
  split at h
  · cases h
  · rename_i nonempty
    obtain ⟨type, htype, h⟩ := bind_eq_ok.mp h
    obtain ⟨options, -, rfl⟩ := map_eq_ok.mp h
    refine ⟨.values members nonempty, type, options, ?_, rfl, htype⟩
    rw [dif_neg nonempty, htype]
    rfl

theorem typed_of_unmodified (hinfer : ∀ s, infer v = .ok s → s.Every Typed)
    (h : unmodified ms v = .ok s) : s.Every Typed := by
  cases hms : ms.enums with
  | false => exact hinfer s (unmodified_value hms ▸ h)
  | true =>
    rw [unmodified, if_pos hms] at h
    obtain ⟨atom, type, options, -, rfl, htype⟩ := ofMembers_eq_ok h
    exact every_typed_leaf htype

theorem typed_of_inferField {entry : Value × Value} {field : Value × Schema}
    (hkey : ∃ key, entry.1 = .text key) (hinfer : ∀ s, infer entry.2 = .ok s → s.Every Typed)
    (h : inferField entry.1 entry.2 = .ok field) :
    (∃ key, field.1 = .text key) ∧ field.2.Every Typed := by
  obtain ⟨name, ms, hdeclares⟩ := exists_declares hkey
  rw [inferField_eq hdeclares] at h
  obtain ⟨t, ht, rfl⟩ := map_eq_ok.mp h
  obtain ⟨s, hs, ht⟩ := bind_eq_ok.mp ht
  obtain ⟨t', ht', htyped, -⟩ := exists_modified ms (typed_of_unmodified hinfer hs)
  cases ht.symm.trans ht'
  exact ⟨⟨name, rfl⟩, htyped⟩

theorem typed_of_first {items : List Value} (hitems : ∀ v ∈ items, ∀ s, infer v = .ok s →
    s.Every Typed) (h : (do arrayOf (← inferFirst items) {} []) = .ok s) : s.Every Typed := by
  obtain ⟨item, hitem, hs⟩ := bind_eq_ok.mp h
  cases items with
  | nil => cases hitem
  | cons first rest =>
    have htyped := hitems first List.mem_cons_self item hitem
    cases hs.symm.trans (arrayOf_eq_ok htyped)
    exact every_array.mpr ⟨trivial, htyped⟩

/-- A schema that is inferred from a sample with text for keys has a type. -/
theorem typed_of_infer (hv : v.TextKeyed) (h : infer v = .ok s) : s.Every Typed := by
  induction v using Value.induction generalizing s with
  | bool b | text t | moment m | day d =>
    rw [infer] at h
    cases h
    exact every_typed_leaf rfl
  | number n =>
    rw [infer] at h
    cases h
    unfold inferNumber
    repeat' split
    all_goals exact every_typed_leaf rfl
  | list items ih =>
    rw [infer] at h
    exact typed_of_first (fun item hitem s hs => ih item hitem (hv.item hitem) hs) h
  | tuple items ih =>
    rw [infer] at h
    exact typed_of_first (fun item hitem s hs => ih item hitem (hv.member hitem) hs) h
  | dict entries ih =>
    obtain ⟨fields, hfields, rfl⟩ := infer_dict_eq_ok.mp h
    have htyped : ∀ field ∈ fields, (∃ key, field.1 = .text key) ∧ field.2.Every Typed := by
      intro field hfield
      rw [inferFields_eq_mapM] at hfields
      obtain ⟨entry, hentry, hinfer⟩ := Outcome.exists_of_mem_mapM hfields hfield
      exact typed_of_inferField (hv entries .self entry hentry)
        (fun s hs => (ih entry hentry).2 (hv.bound hentry) hs) hinfer
    have hkept := Entries.forall_ofList (P := fun key => ∃ name, key = .text name)
      (Q := fun s : Schema => s.Every Typed) htyped
    exact every_object.mpr ⟨fun field hfield => (hkept field hfield).1,
      fun field hfield => (hkept field hfield).2⟩
  | null | undefined | pattern p | foreign name n =>
    simp [infer, bind_eq_ok] at h

end Types

/-! ## Fields -/

/-- What a field is without modifiers, samples of an enumeration aside: the enumeration of the items
of a value, or what is inferred from it. -/
inductive Content (v : Value) : Bool → Schema → Prop
  | enumeration {atom : Leaf} {samples : Option SampleOptions}
      (built : ofValues v [] = .ok (.leaf atom none)) : Content v true (.leaf atom samples)
  | inferred {s : Schema} (built : infer v = .ok s) : Content v false s

/-- A schema with what modifiers say: nullable first, optional around it. -/
def wrapped (ms : Modifiers) (s : Schema) : Schema :=
  let inner := if ms.nullable then .nullable s none else s
  if ms.optional then .optional inner else inner

section Field

variable {v : Value} {s : Schema} {ms : Modifiers} {members : List Value}

theorem modified_eq_ok {t : Schema} : modified ms s = .ok t ↔
    t = wrapped ms s ∧ (ms.nullable = true → ∃ u, nullableOf s [] = .ok u) := by
  have hnullable : ∀ {u}, nullableOf s [] = .ok u → u = .nullable s none := by
    intro u h
    obtain ⟨-, -, h⟩ := bind_eq_ok.mp h
    cases h
    rfl
  rw [modified_eq, map_eq_ok]
  cases hms : ms.nullable with
  | false =>
    rw [wrapped, hms]
    simp only [Bool.false_eq_true, if_false, false_imp_iff, and_true, Except.ok.injEq]
    exact ⟨fun ⟨u, hu, ht⟩ => hu ▸ ht.symm, fun ht => ⟨s, rfl, ht.symm⟩⟩
  | true =>
    rw [wrapped, hms]
    simp only [if_true, true_imp_iff]
    constructor
    · rintro ⟨u, hu, rfl⟩
      exact ⟨by rw [hnullable hu], u, hu⟩
    · rintro ⟨rfl, u, hu⟩
      exact ⟨u, hu, by rw [hnullable hu]⟩

theorem ofValues_eq {samples : Keywords} (hitems : v.items? = some members) :
    ofValues v samples = ofMembers members samples := by
  cases v with
  | list items | tuple items =>
    cases hitems
    rfl
  | _ => cases hitems

/-- An enumeration can be built with samples as well as without, and it has a type. -/
theorem exists_enumerationOf {atom : Leaf} (h : ofMembers members [] = .ok (.leaf atom none)) :
    ∃ s, enumerationOf members = .ok s ∧ s.Every Typed := by
  rw [ofMembers] at h
  split at h
  · cases h
  · rename_i nonempty
    obtain ⟨type, htype, -⟩ := bind_eq_ok.mp h
    have htyped : (Leaf.values members nonempty).signature = .ok type := htype
    exact ⟨_, by rw [enumerationOf_eq nonempty, htype]; rfl, every_typed_leaf htyped⟩

/-- The enumeration of items with text for keys can be built unless one is too long. -/
theorem exists_ofValues (hitems : v.items? = some members) (hne : members ≠ [])
    (hkeys : v.TextKeyed) (hwritten : ¬ v.HoldsTooLong) :
    ∃ atom, ofValues v [] = .ok (.leaf atom none) := by
  have hmembers : ∃ texts, members.mapM Value.json = .ok texts := by
    rw [← Value.exists_json_list_iff]
    have hjson := (Value.exists_json_iff hkeys).mpr hwritten
    cases v with
    | list items =>
      cases hitems
      exact hjson
    | tuple items =>
      cases hitems
      rwa [Value.json_tuple] at hjson
    | _ => cases hitems
  obtain ⟨texts, htexts⟩ := hmembers
  refine ⟨.values members hne, ?_⟩
  rw [ofValues_eq hitems, ofMembers, dif_neg hne, Leaf.alternativesText, htexts]
  rfl

end Field

/-! ### Declared fields -/

section Declared

variable {entry : Value × Value} {name : String} {ms : Modifiers} {s : Schema}

/-- A schema with a type can have all modifiers. -/
theorem exists_inferField_of_typed (hdeclares : Declares entry name ms)
    (hs : unmodified ms entry.2 = .ok s) (htyped : s.Every Typed) :
    ∃ field, inferField entry.1 entry.2 = .ok field := by
  obtain ⟨t, ht, -⟩ := exists_modified ms htyped
  rw [inferField_eq hdeclares]
  exact ⟨_, map_eq_ok.mpr ⟨t, bind_eq_ok.mpr ⟨s, hs, ht⟩, rfl⟩⟩

variable (henums : ms.enums = true → ∃ members, entry.2.items? = some members ∧ members ≠ [])

include henums

theorem content_of_unmodified (h : unmodified ms entry.2 = .ok s) :
    Content entry.2 ms.enums s := by
  cases hms : ms.enums with
  | false => exact .inferred (unmodified_value hms ▸ h)
  | true =>
    obtain ⟨members, hitems, -⟩ := henums hms
    rw [unmodified_members hms hitems] at h
    obtain ⟨atom, type, options, hbuilt, rfl, -⟩ := ofMembers_eq_ok h
    exact .enumeration ((ofValues_eq hitems).trans hbuilt)

/-- A field is the content of its value with what the modifiers say. -/
theorem exists_content {field : Value × Schema} (hdeclares : Declares entry name ms)
    (h : inferField entry.1 entry.2 = .ok field) : ∃ s, Content entry.2 ms.enums s ∧
      (ms.nullable = true → ∃ t, nullableOf s [] = .ok t) ∧
      field = (.text name, wrapped ms s) := by
  rw [inferField_eq hdeclares] at h
  obtain ⟨t, ht, rfl⟩ := map_eq_ok.mp h
  obtain ⟨s, hs, ht⟩ := bind_eq_ok.mp ht
  obtain ⟨rfl, hnullable⟩ := modified_eq_ok.mp ht
  exact ⟨s, content_of_unmodified henums hs, hnullable, rfl⟩

/-- There is a field if its content and a nullable schema of it can be built. -/
theorem exists_inferField_of_content (hdeclares : Declares entry name ms)
    (h : Content entry.2 ms.enums s)
    (hnullable : ms.nullable = true → ∃ t, nullableOf s [] = .ok t) :
    ∃ field, inferField entry.1 entry.2 = .ok field := by
  generalize hms : ms.enums = enums at h
  cases h with
  | enumeration built =>
    obtain ⟨members, hitems, -⟩ := henums hms
    rw [ofValues_eq hitems] at built
    obtain ⟨s, hs, htyped⟩ := exists_enumerationOf built
    exact exists_inferField_of_typed hdeclares ((unmodified_members hms hitems).trans hs) htyped
  | inferred built =>
    have ht := modified_eq_ok.mpr ⟨rfl, hnullable⟩
    rw [inferField_eq hdeclares]
    exact ⟨_, map_eq_ok.mpr ⟨_, bind_eq_ok.mpr ⟨s, (unmodified_value hms).trans built, ht⟩, rfl⟩⟩

/-- There is a field for every value with text for keys, unless a member is too long. -/
theorem exists_inferField_of_textKeyed (hdeclares : Declares entry name ms)
    (hvalue : ms.enums = false → ∃ s, infer entry.2 = .ok s) (hkeys : entry.2.TextKeyed)
    (hwritten : ms.enums = true → ¬ entry.2.HoldsTooLong) :
    ∃ field, inferField entry.1 entry.2 = .ok field := by
  cases hms : ms.enums with
  | false =>
    obtain ⟨s, hs⟩ := hvalue hms
    exact exists_inferField_of_typed hdeclares ((unmodified_value hms).trans hs)
      (typed_of_infer hkeys hs)
  | true =>
    obtain ⟨members, hitems, hne⟩ := henums hms
    obtain ⟨atom, hbuilt⟩ := exists_ofValues hitems hne hkeys (hwritten hms)
    obtain ⟨s, hs, htyped⟩ := exists_enumerationOf ((ofValues_eq hitems).symm.trans hbuilt)
    exact exists_inferField_of_typed hdeclares ((unmodified_members hms hitems).trans hs) htyped

end Declared

/-! ## Fields of marked keys -/

section Marked

variable {name : String} {marks : List Mark} {v : Value}

/-- Where marks say that a value is listed, it is one. -/
theorem listed_of_enums (henums : (Modifiers.ofMarks marks).enums = true →
    ∃ members, v.items? = some members ∧ members ≠ []) :
    ∀ mark ∈ marks, mark.modifier = .enums → v.items?.isSome = true := by
  intro mark hmem hmark
  obtain ⟨members, hitems, -⟩ :=
    henums (List.any_eq_true.mpr ⟨mark, hmem, decide_eq_true hmark⟩)
  rw [hitems]
  rfl

theorem declares_markedKey (hname : Unmarked name)
    (henums : (Modifiers.ofMarks marks).enums = true →
      ∃ members, v.items? = some members ∧ members ≠ []) :
    Declares (.text (markedKey name marks), v) name (.ofMarks marks) :=
  ⟨_, rfl, strips_markedKey hname (listed_of_enums henums)⟩

/-- Only the kinds of marks count. -/
theorem inferField_congr {marks' : List Mark} (hname : Unmarked name)
    (henums : (Modifiers.ofMarks marks).enums = true →
      ∃ members, v.items? = some members ∧ members ≠ [])
    (h : Modifiers.ofMarks marks = Modifiers.ofMarks marks') :
    inferField (.text (markedKey name marks')) v = inferField (.text (markedKey name marks)) v := by
  rw [inferField_eq (declares_markedKey hname henums),
    inferField_eq (declares_markedKey hname (h ▸ henums)), h]

/-- A key with marks declares the field of its name with what the kinds of its marks say.  All marks
are taken off in as many rounds; the field has the content of the value, once nullable and once
optional at most; and there is one if the content can be built and, where it may be null, a nullable
schema of it. -/
theorem inferField_markedKey (hname : Unmarked name)
    (henums : (Modifiers.ofMarks marks).enums = true →
      ∃ members, v.items? = some members ∧ members ≠ [])
    (hvalue : (Modifiers.ofMarks marks).enums = false → ∃ s, infer v = .ok s) :
    (∀ fuel, marks.length ≤ fuel →
      peelFrom v.items?.isSome fuel (markedKey name marks).toList {} =
        (name.toList, .ofMarks marks)) ∧
    (∀ field, inferField (.text (markedKey name marks)) v = .ok field →
      ∃ s, Content v (Modifiers.ofMarks marks).enums s ∧
        field = (.text name, wrapped (.ofMarks marks) s)) ∧
    ((∃ field, inferField (.text (markedKey name marks)) v = .ok field) ↔
      ∃ s, Content v (Modifiers.ofMarks marks).enums s ∧
        ((Modifiers.ofMarks marks).nullable = true → ∃ t, nullableOf s [] = .ok t)) ∧
    (v.TextKeyed → ((Modifiers.ofMarks marks).enums = true → ¬ v.HoldsTooLong) →
      ∃ field, inferField (.text (markedKey name marks)) v = .ok field) ∧
    ∀ marks', (∀ m, (∃ mark ∈ marks, mark.modifier = m) ↔ ∃ mark ∈ marks', mark.modifier = m) →
      inferField (.text (markedKey name marks')) v =
        inferField (.text (markedKey name marks)) v := by
  have hdeclares := declares_markedKey hname henums
  refine ⟨fun fuel hfuel => ?_, fun field h => ?_, ⟨?_, ?_⟩,
    exists_inferField_of_textKeyed henums hdeclares hvalue, fun marks' hkinds => ?_⟩
  · rw [peelFrom_markedKey hname (listed_of_enums henums) hfuel, Modifiers.empty_join]
  · obtain ⟨s, hs, -, hfield⟩ := exists_content henums hdeclares h
    exact ⟨s, hs, hfield⟩
  · rintro ⟨field, h⟩
    obtain ⟨s, hs, hnullable, -⟩ := exists_content henums hdeclares h
    exact ⟨s, hs, hnullable⟩
  · rintro ⟨s, hs, hnullable⟩
    exact exists_inferField_of_content henums hdeclares hs hnullable
  · exact inferField_congr hname henums (Modifiers.ofMarks_congr hkinds)

end Marked

/-- Marks for members of a list, for null and for a field that may be left out. -/
def statusMarks : List Mark :=
  [⟨.nullable, "$null", by decide⟩, ⟨.enums, "$enum", by decide⟩, ⟨.optional, "?", by decide⟩,
    ⟨.enums, "$enums", by decide⟩]

/-- The members that a status is one of. -/
def statusMembers : List Value :=
  [.text "open", .text "done"]

/-- Marks for null and for a field that may be left out. -/
def priceMarks : List Mark :=
  [⟨.optional, "$optional", by decide⟩, ⟨.nullable, "$nullable", by decide⟩,
    ⟨.optional, "?", by decide⟩]

/-- What the field of a status takes in. -/
def statusLeaf : Leaf :=
  .values statusMembers (by simp [statusMembers])

theorem inferField_markedKey_status :
    (∃ samples, inferField (.text "status$null$enum?$enums") (.list statusMembers) =
      .ok (.text "status", .optional (.nullable (.leaf statusLeaf samples) none))) ∧
    inferField (.text "price$optional$nullable?") (.int 3) =
      .ok (.text "price", .optional (.nullable (sampled (.int {}) (.int 3)) none)) := by
  have hkeys : (Value.list statusMembers).TextKeyed := by
    intro entries hholds
    cases hholds with
    | item mem holds => rcases List.mem_pair.mp mem with rfl | rfl <;> cases holds
  have hwritten : ¬ (Value.list statusMembers).HoldsTooLong := by
    rintro ⟨n, -, hholds⟩
    cases hholds with
    | item mem holds => rcases List.mem_pair.mp mem with rfl | rfl <;> cases holds
  constructor
  · obtain ⟨-, hcontent, -, hexists, -⟩ := @inferField_markedKey "status" statusMarks
      (.list statusMembers) (unmarked_iff.mpr (by decide))
      (fun _ => ⟨statusMembers, rfl, by simp [statusMembers]⟩) (fun h => absurd h (by decide))
    obtain ⟨field, hfield⟩ := hexists hkeys fun _ => hwritten
    obtain ⟨s, hs, rfl⟩ := hcontent field hfield
    have hs : Content (.list statusMembers) true s := hs
    cases hs with
    | @enumeration atom samples built =>
      obtain rfl : statusLeaf = atom := by
        cases built
        rfl
      exact ⟨samples, hfield⟩
  · obtain ⟨-, hcontent, -, hexists, -⟩ := @inferField_markedKey "price" priceMarks (.int 3)
      (unmarked_iff.mpr (by decide)) (fun h => absurd h (by decide)) (fun _ => ⟨_, rfl⟩)
    have hkeys : (Value.int 3).TextKeyed := fun _ hholds => by cases hholds
    obtain ⟨field, hfield⟩ := hexists hkeys fun h => absurd h (by decide)
    obtain ⟨s, hs, rfl⟩ := hcontent field hfield
    have hs : Content (.int 3) false s := hs
    cases hs with
    | inferred built =>
      cases built
      exact hfield

/-- A list of one member that is too long to be written. -/
def longList : Value :=
  .list [.int (10 ^ Numeric.maxDigits)]

/-- Not every key that is a name with marks has a field. -/
theorem not_forall_exists_inferField : ¬ ∀ (name : String) (marks : List Mark) (v : Value),
    Unmarked name →
    ((Modifiers.ofMarks marks).enums = true → ∃ members, v.items? = some members ∧ members ≠ []) →
    ((Modifiers.ofMarks marks).enums = false → ∃ s, infer v = .ok s) →
      ∃ field, inferField (.text (markedKey name marks)) v = .ok field := by
  intro h
  have hname : Unmarked "n" := unmarked_iff.mpr (by decide)
  have hitems : longList.items? = some [.int (10 ^ Numeric.maxDigits)] := rfl
  have henums : (Modifiers.ofMarks [⟨.enums, "$enum", by decide⟩]).enums = true →
      ∃ members, longList.items? = some members ∧ members ≠ [] := fun _ => ⟨_, hitems, by simp⟩
  have hkeys : longList.TextKeyed := by
    intro entries hholds
    cases hholds with
    | item mem holds =>
      rw [List.mem_singleton.mp mem] at holds
      cases holds
  have hlong : longList.HoldsTooLong :=
    ⟨_, Numeric.tooLong_tenPow, .item List.mem_cons_self .self⟩
  obtain ⟨field, hfield⟩ := h "n" [⟨.enums, "$enum", by decide⟩] longList hname henums
    fun h => absurd h (by decide)
  obtain ⟨s, hs, -⟩ := exists_content henums (declares_markedKey hname henums) hfield
  have hs : Content longList true s := hs
  cases hs with
  | enumeration built =>
    rw [ofValues_eq hitems] at built
    obtain ⟨-, -, -, hjson⟩ := json_of_ofMembers built
    exact (Value.exists_json_iff hkeys).mp hjson hlong

end Schema

end Intake
