import Intake.RecordModel
import Intake.Proofs.Text.Identifier

/-!
# The names of attributes

A key that is no name for an attribute is rewritten: what cannot stand in a word becomes a low line,
and the low lines in front go.  Words and identifiers are two notions, though.  A superscript two
may stand in a word and in no identifier, and a rewritten key with one is no identifier, with or
without a mark in front.  So an attribute has a usable name just if all that its key has of words
may stand in identifiers.  Only then is the name left alone when it is itself taken for a key.

## Main definitions

* `IsAttributeName` — the names that attributes are meant to have.
* `bareName` — a key with low lines for what cannot stand in a word, and none in front.
* `WordsFit` — all that a key has of words may stand in identifiers.

## Main statements

* `attributeName_of_isAttributeName` — usable names are left alone.
* `isAttributeName_attributeName_iff` — the keys whose attributes have usable names.
* `attributeName_usable_iff` — usable and settled names, and what becomes of the others.
-/

namespace Intake

open Text (isIdentifierRest isWord)

/-- A name that an attribute is meant to have: an identifier, and no private one. -/
def IsAttributeName (name : String) : Prop :=
  Text.isIdentifier name.toList = true ∧ name.toList.head? ≠ some '_'

/-- A key with low lines for what cannot stand in a word, and none in front. -/
def bareName (key : String) : List Char :=
  (key.toList.map fun c => if isWord c then c else '_').dropWhile (· = '_')

/-- All that a key has of words may stand in identifiers. -/
def WordsFit (key : String) : Prop :=
  ∀ c ∈ key.toList, isWord c = true → isIdentifierRest c = true

variable {key : String}

/-! ## Bare names -/

theorem head?_bareName (key : String) : (bareName key).head? ≠ some '_' := by
  intro h
  have := List.head?_dropWhile_not (fun c : Char => decide (c = '_'))
    (key.toList.map fun c => if isWord c then c else '_')
  rw [← bareName, h] at this
  simp at this

theorem isWord_of_mem_bareName {c : Char} (hc : c ∈ bareName key) : isWord c = true := by
  obtain ⟨d, -, rfl⟩ := List.mem_map.mp ((List.dropWhile_sublist _).mem hc)
  split
  · assumption
  · rfl

/-- Nothing that a key has of words is lost in its bare name, but for low lines. -/
theorem mem_bareName {c : Char} (hc : c ∈ key.toList) (hword : isWord c = true) (hne : c ≠ '_') :
    c ∈ bareName key := by
  have hmem : c ∈ key.toList.map fun c => if isWord c then c else '_' :=
    List.mem_map.mpr ⟨c, hc, if_pos hword⟩
  rw [← List.takeWhile_append_dropWhile (p := (· = '_'))
    (l := key.toList.map fun c => if isWord c then c else '_'), List.mem_append] at hmem
  rcases hmem with hmem | hmem
  · have hlow := List.mem_takeWhile_imp hmem
    exact absurd (of_decide_eq_true hlow) hne
  · exact hmem

theorem forall_mem_bareName_iff :
    (∀ c ∈ bareName key, isIdentifierRest c = true) ↔ WordsFit key := by
  constructor
  · intro h c hc hword
    rcases eq_or_ne c '_' with rfl | hne
    · exact Text.isIdentifierRest_lowLine
    · exact h c (mem_bareName hc hword hne)
  · intro h c hc
    obtain ⟨d, hd, rfl⟩ := List.mem_map.mp ((List.dropWhile_sublist _).mem hc)
    split
    · exact h d hd ‹_›
    · exact Text.isIdentifierRest_lowLine

/-- A key of words is its own bare name, if no low line stands in front. -/
theorem bareName_of_words (hwords : ∀ c ∈ key.toList, isWord c = true)
    (hhead : key.toList.head? ≠ some '_') : bareName key = key.toList := by
  have hmap : (key.toList.map fun c => if isWord c then c else '_') = key.toList :=
    (List.map_congr_left fun c hc => if_pos (hwords c hc)).trans (List.map_id' _)
  rw [bareName, hmap]
  cases hkey : key.toList with
  | nil => rfl
  | cons c cs =>
    rw [hkey, List.head?_cons, ne_eq, Option.some.injEq] at hhead
    exact List.dropWhile_cons_of_neg (by simpa using hhead)

/-! ## Names of attributes -/

/-- A usable name is left alone. -/
theorem attributeName_of_isAttributeName (h : IsAttributeName key) : attributeName key = key := by
  have hself : (Text.isIdentifier key.toList && key.toList.head? ≠ some '_') = true := by
    simp [h.1, h.2]
  exact if_pos hself

theorem toList_attributeName (h : ¬ IsAttributeName key) : (attributeName key).toList =
    if Text.isIdentifier (bareName key) then bareName key else "field_".toList ++ bareName key := by
  have hself : ¬ (Text.isIdentifier key.toList && key.toList.head? ≠ some '_') = true := by
    simpa [IsAttributeName] using h
  have hname : attributeName key =
      if Text.isIdentifier (bareName key) then String.ofList (bareName key)
      else "field_" ++ String.ofList (bareName key) := if_neg hself
  rw [hname]
  split
  · exact String.toList_ofList
  · simp

/-- No attribute is private. -/
theorem head?_attributeName (key : String) : (attributeName key).toList.head? ≠ some '_' := by
  by_cases h : IsAttributeName key
  · rw [attributeName_of_isAttributeName h]
    exact h.2
  · rw [toList_attributeName h]
    split
    · exact head?_bareName key
    · simp

theorem isIdentifier_mark : Text.isIdentifier "field_".toList = true := by
  decide +kernel

/-- The keys whose attributes have usable names. -/
theorem isAttributeName_attributeName_iff : IsAttributeName (attributeName key) ↔ WordsFit key := by
  by_cases h : IsAttributeName key
  · rw [attributeName_of_isAttributeName h]
    exact iff_of_true h fun c hc _ => Text.isIdentifierRest_of_mem h.1 hc
  · rw [IsAttributeName, and_iff_left (head?_attributeName key), toList_attributeName h,
      ← forall_mem_bareName_iff]
    split
    · rename_i hbare
      exact iff_of_true hbare fun c => Text.isIdentifierRest_of_mem hbare
    · exact Text.isIdentifier_append isIdentifier_mark

/-! ## Attributes taken for keys -/

theorem mark_append_ne (name : String) : "field_" ++ name ≠ name := by
  intro h
  have hlength := congrArg String.length h
  have hmark : "field_".length = 6 := rfl
  rw [String.length_append] at hlength
  omega

/-- In front of a key of words that is not usable comes a mark, and nothing else changes. -/
theorem attributeName_of_words (hwords : ∀ c ∈ key.toList, isWord c = true)
    (hhead : key.toList.head? ≠ some '_') (h : ¬ IsAttributeName key) :
    attributeName key = "field_" ++ key := by
  have hnot : ¬ Text.isIdentifier key.toList = true := fun hid => h ⟨hid, hhead⟩
  rw [← String.toList_inj, toList_attributeName h, bareName_of_words hwords hhead, if_neg hnot,
    String.toList_append]

theorem all_isWord_mark : "field_".toList.all isWord = true := by
  decide +kernel

theorem isWord_of_mem_attributeName (h : ¬ IsAttributeName key) :
    ∀ c ∈ (attributeName key).toList, isWord c = true := by
  intro c hc
  rw [toList_attributeName h] at hc
  split at hc
  · exact isWord_of_mem_bareName hc
  · rcases List.mem_append.mp hc with hc | hc
    · exact List.all_eq_true.mp all_isWord_mark c hc
    · exact isWord_of_mem_bareName hc

/-- The keys that are left alone are the usable names. -/
theorem attributeName_eq_self_iff : attributeName key = key ↔ IsAttributeName key := by
  refine ⟨fun hself => ?_, attributeName_of_isAttributeName⟩
  by_contra h
  -- the key is what it is rewritten to, so it is one of words and gets a mark all the same
  have hwords : ∀ c ∈ key.toList, isWord c = true := hself ▸ isWord_of_mem_attributeName h
  have hhead : key.toList.head? ≠ some '_' := hself ▸ head?_attributeName key
  exact mark_append_ne key ((attributeName_of_words hwords hhead h).symm.trans hself)

/-- An attribute that is not usable gets another mark when it is taken for a key. -/
theorem attributeName_attributeName (h : ¬ IsAttributeName (attributeName key)) :
    attributeName (attributeName key) = "field_" ++ attributeName key := by
  have hkey : ¬ IsAttributeName key := fun hkey =>
    h ((attributeName_of_isAttributeName hkey).symm ▸ hkey)
  exact attributeName_of_words (isWord_of_mem_attributeName hkey) (head?_attributeName key) h

/-- No attribute is private.  Its name is an identifier, and stays as it is when it is taken for a
key, if and only if all that the key has of words may stand in identifiers; otherwise it gets one
more mark each time. -/
theorem attributeName_usable_iff (key : String) :
    (attributeName key).toList.head? ≠ some '_' ∧
      (Text.isIdentifier (attributeName key).toList = true ↔ WordsFit key) ∧
      (attributeName (attributeName key) = attributeName key ↔ WordsFit key) ∧
      (attributeName (attributeName key) = "field_" ++ attributeName key ↔ ¬ WordsFit key) := by
  have hhead := head?_attributeName key
  have hsettled : attributeName (attributeName key) = attributeName key ↔ WordsFit key :=
    attributeName_eq_self_iff.trans isAttributeName_attributeName_iff
  refine ⟨hhead, ?_, hsettled, ?_⟩
  · rw [← isAttributeName_attributeName_iff, IsAttributeName, and_iff_left hhead]
  · constructor
    · intro hmark hfit
      exact mark_append_ne _ (hmark.symm.trans (hsettled.mpr hfit))
    · intro hfit
      exact attributeName_attributeName (mt isAttributeName_attributeName_iff.mp hfit)

/-- A key with a superscript, which may stand in words and not in identifiers. -/
theorem attributeName_squared : attributeName "x²" = "field_x²" := by
  decide +kernel

/-- An attribute may have a name that is no identifier and would itself be rewritten as a key. -/
theorem exists_attributeName_not_usable : ∃ key,
    Text.isIdentifier (attributeName key).toList = false ∧
      attributeName (attributeName key) ≠ attributeName key := by
  refine ⟨"x²", ?_, ?_⟩
  · rw [attributeName_squared]
    decide +kernel
  · rw [attributeName_squared]
    decide +kernel

end Intake
