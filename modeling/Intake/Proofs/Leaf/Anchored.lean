import Intake.Proofs.Leaf.Link

/-!
# Where shapes end

The shape of a colour, a mail address or a url ends with the text, or before a last line end of it.
So a rule accepts a text of its shape as a whole, or one with a line end right after the shape.
A rule for links that trims its text takes such a line end away first.  A colour is not trimmed.

## Main definitions

* `IsColorText`, `IsMailIn`, `IsUrlOn` — the shapes of whole texts.
* `BeforeLineEnd` — a text of a shape, but for a line end after it.

## Main statements

* `splitUrl?_sound`, `splitEmail?_sound`, `isColor_iff` — the shapes that are looked for.
* `Leaf.parse_anchored` — the shapes of texts that are accepted.
-/

namespace Intake

open Outcome (bind_eq_ok check_bind_eq_ok map_eq_ok)

/-! ## Shapes that are looked for -/

section Shapes

variable {separator cs before rest domain : List Char}

theorem isFinished_iff : isFinished cs = true ↔ cs = [] ∨ cs = ['\n'] := by
  simp [isFinished]

/-- A text that is split is put together from its parts, whatever line ends come later. -/
theorem splitAfterOne?_sound (h : splitAfterOne? separator cs = some (before, rest)) :
    cs = before ++ separator ++ rest ∧ SplitsAt separator cs before.length := by
  induction cs generalizing before with
  | nil => cases h
  | cons c cs ih =>
    rw [splitAfterOne?] at h
    split at h
    · cases h
    · split at h
      · rename_i hprefix
        cases h
        have hprefix := List.isPrefixOf_iff_prefix.mp hprefix
        refine ⟨?_, splitsAt_one hprefix⟩
        rw [List.append_assoc, ← List.prefix_iff_eq_append.mp hprefix]
        simp
      · rename_i hprefix
        obtain ⟨⟨first, last⟩, hparts, heq⟩ := Option.map_eq_some_iff.mp h
        cases heq
        obtain ⟨hcs, hsplits⟩ := ih hparts
        refine ⟨by rw [hcs]; rfl, ?_⟩
        exact (splitsAt_cons fun h => hprefix (List.isPrefixOf_iff_prefix.mpr h)).mpr
          ⟨_, rfl, hsplits⟩

/-- What follows the domain of a url: nothing, a slash and all behind it, or a last line end. -/
theorem readDomain?_sound (h : readDomain? cs = some domain) :
    domain ≠ [] ∧ '\n' ∉ domain ∧ ∃ rest, cs = domain ++ rest ∧
      (rest = [] ∨ (∃ more, rest = '/' :: more) ∨ rest = ['\n']) := by
  cases cs with
  | nil => cases h
  | cons c cs =>
    rw [readDomain?] at h
    split at h
    · cases h
    · rename_i hc
      split at h
      · rename_i hend
        cases h
        have hinside : '\n' ∉ cs.takeWhile fun d => d ≠ '/' && d ≠ '\n' := fun hmem => by
          simpa using List.mem_takeWhile_imp hmem
        refine ⟨List.cons_ne_nil _ _, List.not_mem_cons_of_ne_of_not_mem (Ne.symm hc) hinside,
          cs.dropWhile fun d => d ≠ '/' && d ≠ '\n', ?_, ?_⟩
        · rw [List.cons_append, List.takeWhile_append_dropWhile]
        · rw [Bool.or_eq_true, decide_eq_true_eq, isFinished_iff, List.head?_eq_some_iff] at hend
          tauto
      · cases h

theorem splitUrl?_sound {protocol : List Char} (h : splitUrl? cs = some (protocol, domain)) :
    SplitsAt "://".toList cs protocol.length ∧ domain ≠ [] ∧ '\n' ∉ domain ∧
      ∃ rest, cs = protocol ++ "://".toList ++ (domain ++ rest) ∧
        (rest = [] ∨ (∃ more, rest = '/' :: more) ∨ rest = ['\n']) := by
  obtain ⟨⟨first, behind⟩, hsplit, h⟩ := Option.bind_eq_some_iff.mp h
  obtain ⟨_, hdomain, h⟩ := Option.bind_eq_some_iff.mp h
  cases h
  obtain ⟨hcs, hsplits⟩ := splitAfterOne?_sound hsplit
  obtain ⟨hne, hline, rest, hbehind, hrest⟩ := readDomain?_sound hdomain
  exact ⟨hsplits, hne, hline, rest, hbehind ▸ hcs, hrest⟩

theorem splitEmail?_sound (h : splitEmail? cs = some domain) :
    domain ≠ [] ∧ '\n' ∉ domain ∧ ∃ user rest, cs = user ++ ['@'] ++ (domain ++ rest) ∧
      (rest = [] ∨ rest = ['\n']) := by
  obtain ⟨⟨user, behind⟩, hsplit, h⟩ := Option.bind_eq_some_iff.mp h
  obtain ⟨hcs, -⟩ := splitAfterOne?_sound hsplit
  dsimp only at h
  split at h
  · rename_i hend
    cases h
    rw [Bool.and_eq_true, isFinished_iff] at hend
    have hwhole := List.prefix_iff_eq_append.mp (List.takeWhile_prefix (l := behind) (· ≠ '\n'))
    refine ⟨by simpa using hend.1, fun hmem => ?_, user, _, ?_, hend.2⟩
    · simpa using List.mem_takeWhile_imp hmem
    · rw [hwhole, hcs]
  · cases h

end Shapes

/-! ## Shapes of whole texts -/

/-- A colour: a number sign and six digits to base sixteen. -/
def IsColorText (s : String) : Prop :=
  ∃ digits : List Char, digits.length = 6 ∧ (∀ c ∈ digits, Text.isHexDigit c = true) ∧
    s.toList = '#' :: digits

/-- A mail address in a domain. -/
def IsMailIn (domain s : String) : Prop :=
  ∃ user, s = user ++ "@" ++ domain

/-- A url of a domain, with or without a path. -/
def IsUrlOn (domain s : String) : Prop :=
  ∃ protocol rest, protocol ≠ "" ∧ s = protocol ++ "://" ++ domain ++ rest ∧
    (rest = "" ∨ ∃ path, rest = "/" ++ path)

/-- A text of a shape, but for a line end after it. -/
def BeforeLineEnd (shape : String → Prop) (s : String) : Prop :=
  ∃ t, shape t ∧ s = t ++ "\n"

/-- A url of a domain, but for a line end right after the domain. -/
def IsUrlBeforeLineEnd (domain s : String) : Prop :=
  ∃ protocol, SplitsAt "://".toList s.toList protocol.length ∧
    s = protocol ++ "://" ++ domain ++ "\n"

section Whole

variable {s domain : String}

/-- A text with a line end after it ends in no text that has none. -/
theorem append_newline_ne {t before part : String} (hne : part ≠ "") (hline : '\n' ∉ part.toList) :
    t ++ "\n" ≠ before ++ part := by
  intro heq
  have hlast := congrArg (fun s : String => s.toList.getLast?) heq
  have hpart : part.toList ≠ [] := fun hnil => hne (String.toList_eq_nil_iff.mp hnil)
  simp only [String.toList_append] at hlast
  rw [List.getLast?_append_of_ne_nil _ hpart] at hlast
  exact hline (List.mem_of_getLast? (hlast.symm.trans (by simp)))

theorem isColor_iff {cs : List Char} : isColor cs = true ↔ ∃ digits rest,
    digits.length = 6 ∧ (∀ c ∈ digits, Text.isHexDigit c = true) ∧ cs = '#' :: (digits ++ rest) ∧
      (rest = [] ∨ rest = ['\n']) := by
  constructor
  · intro h
    unfold isColor at h
    split at h
    · rename_i cs
      simp only [Bool.and_eq_true, decide_eq_true_eq, List.all_eq_true, isFinished_iff] at h
      obtain ⟨⟨hlength, hdigits⟩, hend⟩ := h
      exact ⟨_, _, hlength, hdigits, by rw [List.take_append_drop], hend⟩
    · cases h
  · rintro ⟨digits, rest, hlength, hdigits, rfl, hend⟩
    simp only [isColor, List.take_left' hlength, List.drop_left' hlength, hlength,
      List.all_eq_true.mpr hdigits, isFinished_iff.mpr hend, decide_true, Bool.and_self]

theorem isColor_toList_iff : isColor s.toList = true ↔
    IsColorText s ∨ BeforeLineEnd IsColorText s := by
  rw [isColor_iff]
  constructor
  · rintro ⟨digits, rest, hlength, hdigits, hs, rfl | rfl⟩
    · exact .inl ⟨digits, hlength, hdigits, by rw [hs, List.append_nil]⟩
    · refine .inr ⟨String.ofList ('#' :: digits), ⟨digits, hlength, hdigits, ?_⟩, ?_⟩
      · exact String.toList_ofList
      · rw [← String.toList_inj, hs]
        simp
  · rintro (⟨digits, hlength, hdigits, hs⟩ | ⟨t, ⟨digits, hlength, hdigits, ht⟩, rfl⟩)
    · exact ⟨digits, [], hlength, hdigits, by rw [hs, List.append_nil], .inl rfl⟩
    · exact ⟨digits, ['\n'], hlength, hdigits, by rw [String.toList_append, ht]; rfl, .inr rfl⟩

/-- A line end after a text is trimmed. -/
theorem trim_append_newline_ne (t : String) : Text.trim (t ++ "\n") ≠ t ++ "\n" := by
  intro heq
  have hlast : '\n' ∈ (Text.trimChars (t ++ "\n").toList).getLast? := by
    rw [← Text.toList_trim, heq, String.toList_append]
    simp
  cases Text.getLast?_trimChars _ hlast

/-- A mail address has the shape for its domain, unless a line end comes after it. -/
theorem isMailIn_of_splitEmail? (h : splitEmail? s.toList = some domain.toList) :
    (IsMailIn domain s ↔ ¬ BeforeLineEnd (IsMailIn domain) s) ∧
      (Text.trim s = s → IsMailIn domain s) := by
  obtain ⟨hne, hline, user, rest, hs, hrest⟩ := splitEmail?_sound h
  have hne : domain ≠ "" := fun heq => hne (heq ▸ rfl)
  have hs : s = String.ofList user ++ "@" ++ domain ++ String.ofList rest := by
    rw [← String.toList_inj, hs]
    simp
  rcases hrest with rfl | rfl
  · have hshape : IsMailIn domain s := ⟨String.ofList user, by rw [hs]; simp⟩
    refine ⟨iff_of_true hshape ?_, fun _ => hshape⟩
    rintro ⟨_, ⟨user', rfl⟩, hs'⟩
    obtain ⟨user, rfl⟩ := hshape
    exact append_newline_ne hne hline hs'.symm
  · have hs : s = String.ofList user ++ "@" ++ domain ++ "\n" := hs
    refine ⟨iff_of_false ?_ (not_not.mpr ⟨_, ⟨_, rfl⟩, hs⟩), fun htrim => ?_⟩
    · rintro ⟨user', hs'⟩
      exact append_newline_ne hne hline (hs.symm.trans hs')
    · rw [hs] at htrim
      exact absurd htrim (trim_append_newline_ne _)

/-- A url of a domain has no line end right after it: the first separator would have to stand so far
behind that no path is left. -/
theorem IsUrlOn.not_before_lineEnd (h : IsUrlOn domain s) (hne : domain ≠ "")
    (hline : '\n' ∉ domain.toList) : ¬ IsUrlBeforeLineEnd domain s := by
  rintro ⟨first, hsplits, hs⟩
  obtain ⟨protocol, rest, hprotocol, hs', hrest⟩ := h
  have hplace : first.length ≤ protocol.length := by
    refine hsplits.2 ⟨?_, ?_⟩
    · exact Nat.one_le_iff_ne_zero.mpr fun hzero => hprotocol (String.length_eq_zero_iff.mp hzero)
    · rw [hs', List.prefix_iff_eq_append]
      simp [← String.length_toList]
  have hlength := congrArg String.length (hs.symm.trans hs')
  simp only [String.length_append] at hlength
  have hone : "\n".length = 1 := rfl
  rcases hrest with rfl | ⟨path, rfl⟩
  · exact append_newline_ne hne hline (hs.symm.trans (hs'.trans String.append_empty))
  · rw [String.length_append] at hlength
    have hslash : "/".length = 1 := rfl
    have hpath : path = "" := String.length_eq_zero_iff.mp (by omega)
    rw [hpath, String.append_empty] at hs'
    exact append_newline_ne (by decide) (by decide) (hs.symm.trans hs')

/-- A url has the shape for its domain, unless a line end comes right after the domain. -/
theorem isUrlOn_of_splitUrl? {protocol : List Char}
    (h : splitUrl? s.toList = some (protocol, domain.toList)) :
    (IsUrlOn domain s ↔ ¬ IsUrlBeforeLineEnd domain s) ∧
      (Text.trim s = s → IsUrlOn domain s) := by
  obtain ⟨hsplits, hne, hline, rest, hs, hrest⟩ := splitUrl?_sound h
  have hne : domain ≠ "" := fun heq => hne (heq ▸ rfl)
  have hs : s = String.ofList protocol ++ "://" ++ domain ++ String.ofList rest := by
    rw [← String.toList_inj, hs]
    simp
  have hlength : (String.ofList protocol).length = protocol.length := String.length_ofList
  rcases or_assoc.mpr hrest with hrest | rfl
  · have hprotocol : String.ofList protocol ≠ "" := by
      intro heq
      rw [heq] at hlength
      exact absurd hsplits.1.1 (by simp [← hlength])
    have hpath : String.ofList rest = "" ∨ ∃ path, String.ofList rest = "/" ++ path := by
      rcases hrest with rfl | ⟨path, rfl⟩
      · exact .inl rfl
      · exact .inr ⟨String.ofList path, by rw [← String.toList_inj]; simp⟩
    have hshape : IsUrlOn domain s := ⟨_, _, hprotocol, hs, hpath⟩
    exact ⟨iff_of_true hshape (hshape.not_before_lineEnd hne hline), fun _ => hshape⟩
  · have hs : s = String.ofList protocol ++ "://" ++ domain ++ "\n" := hs
    have hend : IsUrlBeforeLineEnd domain s := ⟨_, hlength ▸ hsplits, hs⟩
    refine ⟨iff_of_false (fun hshape => hshape.not_before_lineEnd hne hline hend)
      (not_not.mpr hend), fun htrim => ?_⟩
    rw [hs] at htrim
    exact absurd htrim (trim_append_newline_ne _)

end Whole

/-! ## Texts that are accepted -/

section Accepted

variable {v : Value} {ctx : Context} {s domain : String}

/-- The text that comes out of a rule that trims is trimmed. -/
theorem TextRule.trim_of_parse {rule : TextRule} (htrim : rule.trim.isTruthy = true)
    (h : rule.parse v ctx = .ok s) : Text.trim s = s := by
  obtain ⟨expected, -, -, hread, -, -⟩ := parse_eq_ok_iff.mp h
  have htaken := taken_text hread
  rw [taken, if_pos htrim] at htaken
  exact Value.text.inj htaken

/-- A mail address that is accepted, but for the empty text, is split at the domain that is asked
for. -/
theorem EmailRule.splitEmail?_of_parse {rule : EmailRule}
    (hdomain : rule.domain = some (.text domain)) (h : rule.parse v ctx = .ok s) (hne : s ≠ "") :
    rule.text.parse v (ctx.overriding (ctx.expected "email")) = .ok s ∧
      splitEmail? s.toList = some domain.toList := by
  unfold EmailRule.parse at h
  split at h
  · cases h
    exact absurd rfl hne
  · obtain ⟨email, hemail, h⟩ := bind_eq_ok.mp h
    split at h
    · exact absurd h (ctx.reject_ne_ok _ _ _ _)
    · rename_i found hsplit
      obtain ⟨hpart, h⟩ := check_bind_eq_ok.mp h
      cases h
      have hfound := Value.text.inj (checkPart_eq_ok_iff.mp hpart _ hdomain)
      exact ⟨hemail, by rw [hsplit, hfound, String.toList_ofList]⟩

/-- A url that is accepted, but for the empty text, is split before the domain that is asked for. -/
theorem UrlRule.splitUrl?_of_parse {rule : UrlRule}
    (hdomain : rule.domain = some (.text domain)) (h : rule.parse v ctx = .ok s) (hne : s ≠ "") :
    rule.text.parse v (ctx.overriding (ctx.expected "url")) = .ok s ∧
      ∃ protocol, splitUrl? s.toList = some (protocol, domain.toList) := by
  unfold UrlRule.parse at h
  split at h
  · cases h
    exact absurd rfl hne
  · obtain ⟨url, hurl, h⟩ := bind_eq_ok.mp h
    split at h
    · exact absurd h (ctx.reject_ne_ok _ _ _ _)
    · rename_i protocol found hsplit
      obtain ⟨hparts, h⟩ := check_bind_eq_ok.mp h
      cases h
      obtain ⟨-, -, hpart⟩ := checkParts_eq_ok_iff.mp hparts
      have hfound := Value.text.inj (hpart _ hdomain)
      exact ⟨hurl, protocol, by rw [hsplit, hfound, String.toList_ofList]⟩

theorem parseColor_eq_ok_iff : parseColor v ctx = .ok s ↔
    v = .text s ∧ (IsColorText s ∨ BeforeLineEnd IsColorText s) := by
  rw [← isColor_toList_iff]
  constructor
  · intro h
    obtain rfl := eq_of_parseColor_eq_ok h
    refine ⟨rfl, ?_⟩
    simp only [parseColor] at h
    split at h
    · exact absurd h (ctx.rejectKind_ne_ok _ _ _)
    · split at h
      · assumption
      · exact absurd h (ctx.reject_ne_ok _ _ _ _)
  · rintro ⟨rfl, hcolor⟩
    have hne : s ≠ "" := by
      rintro rfl
      cases hcolor
    simp [parseColor, hne, hcolor]

namespace Leaf

/-- What the shapes cover of the texts that are accepted.  A colour is of its shape, or it is that
with a line end after it.  A mail address and a url are of the shape for the domain that is asked
for, unless a line end comes after the domain; and they are of the shape if the text is trimmed. -/
theorem parse_anchored (setting : Setting) (ctx : Context) (v : Value) :
    (∀ w, color.parse setting v ctx = .ok w ↔
      w = v ∧ ∃ s, v = .text s ∧ (IsColorText s ∨ BeforeLineEnd IsColorText s)) ∧
    (∀ (rule : EmailRule) (domain s : String), rule.domain = some (.text domain) →
      (email rule).parse setting v ctx = .ok (.text s) → s ≠ "" →
      (IsMailIn domain s ↔ ¬ BeforeLineEnd (IsMailIn domain) s) ∧
        (rule.text.trim.isTruthy = true → IsMailIn domain s)) ∧
    ∀ (rule : UrlRule) (domain s : String), rule.domain = some (.text domain) →
      (url rule).parse setting v ctx = .ok (.text s) → s ≠ "" →
      (IsUrlOn domain s ↔ ¬ IsUrlBeforeLineEnd domain s) ∧
        (rule.text.trim.isTruthy = true → IsUrlOn domain s) := by
  refine ⟨fun w => ?_, fun rule domain s hdomain h hne => ?_, fun rule domain s hdomain h hne => ?_⟩
  · rw [Leaf.parse, map_eq_ok]
    simp only [parseColor_eq_ok_iff]
    constructor
    · rintro ⟨s, ⟨rfl, hshape⟩, rfl⟩
      exact ⟨rfl, s, rfl, hshape⟩
    · rintro ⟨rfl, s, rfl, hshape⟩
      exact ⟨s, ⟨rfl, hshape⟩, rfl⟩
  · obtain ⟨_, h, ⟨⟩⟩ := map_eq_ok.mp h
    obtain ⟨htext, hsplit⟩ := EmailRule.splitEmail?_of_parse hdomain h hne
    obtain ⟨hshape, htrimmed⟩ := isMailIn_of_splitEmail? hsplit
    exact ⟨hshape, fun htrim => htrimmed (TextRule.trim_of_parse htrim htext)⟩
  · obtain ⟨_, h, ⟨⟩⟩ := map_eq_ok.mp h
    obtain ⟨htext, protocol, hsplit⟩ := UrlRule.splitUrl?_of_parse hdomain h hne
    obtain ⟨hshape, htrimmed⟩ := isUrlOn_of_splitUrl? hsplit
    exact ⟨hshape, fun htrim => htrimmed (TextRule.trim_of_parse htrim htext)⟩

theorem parse_anchored_padded :
    color.parse "en" (.text "#C0ffee\n") .root = .ok (.text "#C0ffee\n") ∧
    (email { domain := some (.text "b") }).parse "en" (.text " @a@b\n") .root = .ok (.text "@a@b") ∧
    IsMailIn "b" "@a@b" ∧
    (url { domain := some (.text "b") }).parse "en" (.text " x://b/\n") .root =
      .ok (.text "x://b/") ∧
    IsUrlOn "b" "x://b/" := by
  have hcolor : BeforeLineEnd IsColorText "#C0ffee\n" :=
    ⟨"#C0ffee", ⟨"C0ffee".toList, by decide, List.all_eq_true.mp (by decide), rfl⟩, rfl⟩
  have hmail : (email { domain := some (.text "b") }).parse "en" (.text " @a@b\n") .root =
      .ok (.text "@a@b") := rfl
  have hurl : (url { domain := some (.text "b") }).parse "en" (.text " x://b/\n") .root =
      .ok (.text "x://b/") := rfl
  exact ⟨((parse_anchored "en" .root _).1 _).mpr ⟨rfl, _, rfl, .inr hcolor⟩, hmail,
    ((parse_anchored "en" .root _).2.1 { domain := some (.text "b") } "b" "@a@b" rfl hmail
      (by decide)).2 rfl, hurl,
    ((parse_anchored "en" .root _).2.2 { domain := some (.text "b") } "b" "x://b/" rfl hurl
      (by decide)).2 rfl⟩

/-- Texts with a line end after the shape are accepted as they are: any colour, and links whose rule
does not trim them. -/
theorem exists_accepted_before_lineEnd :
    (color.parse "en" (.text "#c0ffee\n") .root = .ok (.text "#c0ffee\n") ∧
      ¬ IsColorText "#c0ffee\n") ∧
    ((email { text := { trim := .bool false }, domain := some (.text "b") }).parse "en"
        (.text "a@b\n") .root = .ok (.text "a@b\n") ∧ ¬ IsMailIn "b" "a@b\n") ∧
    (url { text := { trim := .bool false }, domain := some (.text "b") }).parse "en"
        (.text "a://b\n") .root = .ok (.text "a://b\n") ∧ ¬ IsUrlOn "b" "a://b\n" := by
  refine ⟨⟨rfl, ?_⟩, ⟨rfl, ?_⟩, rfl, fun h => ?_⟩
  · rintro ⟨digits, hlength, -, hdigits⟩
    cases hdigits
    cases hlength
  · rintro ⟨user, hs⟩
    have hs : "a@b" ++ "\n" = user ++ "@" ++ "b" := hs
    exact append_newline_ne (by decide) (by decide) hs
  · have hsplits : SplitsAt "://".toList "a://b\n".toList "a".length :=
      isLeast_of_forall_lt (by decide) (by decide)
    exact h.not_before_lineEnd (by decide) (by decide) ⟨"a", hsplits, rfl⟩

end Leaf

end Accepted

end Intake
