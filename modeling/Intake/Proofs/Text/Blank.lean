import Intake.Text.Blank
import Mathlib.Data.List.DropRight

/-!
# Trimmed text

Trimming stops at the first and at the last character that is not blank, so trimmed text is left
alone by another trimming.

## Main statements

* `trimChars_eq_self` — texts that are left alone.
* `exists_eq_append_trimChars`, `trimChars_append` — only blanks are trimmed, and all at the ends.
* `trim_trim` — trimming twice is trimming once.
-/

namespace Intake.Text

theorem trimChars_eq (cs : List Char) :
    trimChars cs = (cs.dropWhile isBlank).rdropWhile isBlank := rfl

/-- Trimming leaves a text alone if neither its first nor its last character is blank. -/
theorem trimChars_eq_self {cs : List Char} (hhead : ∀ c ∈ cs.head?, isBlank c = false)
    (hlast : ∀ c ∈ cs.getLast?, isBlank c = false) : trimChars cs = cs := by
  have hdrop : cs.dropWhile isBlank = cs := by
    cases cs with
    | nil => rfl
    | cons c cs => simp [hhead c rfl]
  rw [trimChars_eq, hdrop, List.rdropWhile_eq_self_iff]
  intro hne hblank
  simp [hlast _ (List.getLast?_eq_some_getLast hne)] at hblank

theorem trimChars_of_forall {cs : List Char} (h : ∀ c ∈ cs, isBlank c = false) :
    trimChars cs = cs :=
  trimChars_eq_self (fun c hc => h c (List.mem_of_mem_head? hc))
    fun c hc => h c (List.mem_of_mem_getLast? hc)

theorem not_isBlank_of_all {cs : List Char} (h : cs.all (fun c => !isBlank c) = true) {c : Char}
    (hc : c ∈ cs) : isBlank c = false := by
  simpa using List.all_eq_true.mp h c hc

theorem head?_trimChars {cs : List Char} : ∀ c ∈ (trimChars cs).head?, isBlank c = false := by
  intro c hc
  obtain ⟨rest, hrest⟩ : trimChars cs <+: cs.dropWhile isBlank := List.rdropWhile_prefix _ _
  have hhead : (cs.dropWhile isBlank).head? = some c := by
    rw [← hrest, List.head?_append, hc, Option.some_or]
  have := List.head?_dropWhile_not isBlank cs
  simpa [hhead] using this

theorem getLast?_trimChars {cs : List Char} :
    ∀ c ∈ (trimChars cs).getLast?, isBlank c = false := by
  intro c hc
  have hne : trimChars cs ≠ [] := by rintro h; simp [h] at hc
  rw [List.getLast?_eq_some_getLast hne] at hc
  obtain rfl := Option.some.inj hc
  have := List.rdropWhile_last_not isBlank (cs.dropWhile isBlank) hne
  exact Bool.eq_false_iff.mpr this

theorem trimChars_trimChars (cs : List Char) : trimChars (trimChars cs) = trimChars cs :=
  trimChars_eq_self head?_trimChars getLast?_trimChars

/-- A text is the trimmed one with blanks at its ends. -/
theorem exists_eq_append_trimChars (cs : List Char) : ∃ before after,
    (∀ c ∈ before, isBlank c = true) ∧ (∀ c ∈ after, isBlank c = true) ∧
      cs = before ++ (trimChars cs ++ after) := by
  refine ⟨cs.takeWhile isBlank, (cs.dropWhile isBlank).rtakeWhile isBlank,
    fun c => List.mem_takeWhile_imp, fun c => List.mem_rtakeWhile_imp, ?_⟩
  rw [trimChars_eq, List.rdropWhile_append_rtakeWhile, List.takeWhile_append_dropWhile]

/-- Trimming takes nothing from a text but blanks. -/
theorem filter_trimChars {p : Char → Bool} (hp : ∀ c, p c = true → isBlank c = false)
    (cs : List Char) : (trimChars cs).filter p = cs.filter p := by
  obtain ⟨before, after, hbefore, hafter, hcs⟩ := exists_eq_append_trimChars cs
  have hnone : ∀ blanks : List Char, (∀ c ∈ blanks, isBlank c = true) → blanks.filter p = [] := by
    intro blanks hblanks
    refine List.filter_eq_nil_iff.mpr fun c hc hkept => ?_
    cases (hblanks c hc).symm.trans (hp c hkept)
  conv_rhs => rw [hcs, List.filter_append, List.filter_append, hnone before hbefore,
    hnone after hafter, List.nil_append, List.append_nil]

/-- Trimming takes blanks only. -/
theorem mem_trimChars {c : Char} {cs : List Char} (hc : c ∈ cs) (hblank : isBlank c = false) :
    c ∈ trimChars cs := by
  have hkept : c ∈ cs.filter (!isBlank ·) := List.mem_filter.mpr ⟨hc, by simp [hblank]⟩
  rw [← filter_trimChars (fun d hd => by simpa using hd)] at hkept
  exact List.mem_of_mem_filter hkept

theorem contains_trimChars {c : Char} (hc : isBlank c = false) (cs : List Char) :
    (trimChars cs).contains c = cs.contains c := by
  have hkeep : ∀ d, (d == c) = true → isBlank d = false := by
    intro d hd
    rw [beq_iff_eq.mp hd, hc]
  have hfilter : ∀ ds : List Char, ds.contains c = !(ds.filter (· == c)).isEmpty := by
    intro ds
    rw [Bool.eq_iff_iff, List.contains_iff_mem]
    simp
  rw [hfilter, hfilter, filter_trimChars hkeep]

/-- Blanks at the ends of a text are trimmed with it. -/
theorem trimChars_append {before after : List Char} (hbefore : ∀ c ∈ before, isBlank c = true)
    (hafter : ∀ c ∈ after, isBlank c = true) (cs : List Char) :
    trimChars (before ++ (cs ++ after)) = trimChars cs := by
  rw [trimChars, trimChars, List.dropWhile_append_of_pos hbefore, List.dropWhile_append]
  split
  · rename_i hempty
    rw [List.isEmpty_iff.mp hempty, List.dropWhile_eq_nil_iff.mpr hafter]
  · have hreverse : ∀ c ∈ after.reverse, isBlank c = true :=
      fun c hc => hafter c (List.mem_reverse.mp hc)
    rw [List.reverse_append, List.dropWhile_append_of_pos hreverse]

/-- A text is trimmed before or after some characters are taken out of it, and once more. -/
theorem trimChars_filter (p : Char → Bool) (cs : List Char) :
    trimChars (cs.filter p) = trimChars ((trimChars cs).filter p) := by
  obtain ⟨before, after, hbefore, hafter, hcs⟩ := exists_eq_append_trimChars cs
  conv_lhs => rw [hcs, List.filter_append, List.filter_append]
  exact trimChars_append (fun c hc => hbefore c (List.mem_of_mem_filter hc))
    (fun c hc => hafter c (List.mem_of_mem_filter hc)) _

@[simp] theorem toList_trim (s : String) : (trim s).toList = trimChars s.toList :=
  String.toList_ofList

theorem trim_ne_empty {s : String} (h : trimChars s.toList ≠ []) : trim s ≠ "" := by
  intro htrim
  refine h ?_
  rw [← toList_trim, htrim]
  rfl

@[simp] theorem trim_trim (s : String) : trim (trim s) = trim s := by
  simp [trim, trimChars_trimChars]

end Intake.Text
