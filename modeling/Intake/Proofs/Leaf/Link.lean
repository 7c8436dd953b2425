import Intake.Leaf
import Intake.Proofs.Rule.Text
import Mathlib.Order.Bounds.Basic

/-!
# How links are split

A rule for links looks for the first place of a separator behind the first character, whatever comes
after it: later separators belong to what follows.  The domain of a url ends with the first slash
behind its first character, or with the url; the domain of a mail address is all that is left.  So
what a rule asks of the parts is asked of well-defined parts of the text.

## Main definitions

* `SplitsAt` — the first place of a separator.
* `DomainEndsAt` — the length of the domain of a url.
* `Value.Lists` — the texts that a value lists.

## Main statements

* `splitUrl?_eq_some_iff`, `splitEmail?_eq_some_iff` — the parts of a link.
* `Leaf.parse_link_iff` — the links that are accepted.
-/

namespace Intake

open Outcome (bind_eq_ok check_bind_eq_ok map_eq_ok ofFault_eq_ok)

/-! ## The first place of a separator -/

/-- A separator stands in a text at this place, but at none before it except the very first. -/
def SplitsAt (separator cs : List Char) (i : Nat) : Prop :=
  IsLeast {i | 1 ≤ i ∧ separator <+: cs.drop i} i

section Splits

variable {separator cs before rest : List Char} {c : Char} {i : Nat}

theorem not_splitsAt_nil (hseparator : separator ≠ []) : ¬ SplitsAt separator [] i := by
  rintro ⟨⟨-, hprefix⟩, -⟩
  rw [List.drop_nil, List.prefix_nil] at hprefix
  exact hseparator hprefix

theorem splitsAt_one (h : separator <+: cs) : SplitsAt separator (c :: cs) 1 :=
  ⟨⟨Nat.le_refl 1, h⟩, fun _ hj => hj.1⟩

/-- Where the separator does not come next, its place is the one in what is left. -/
theorem splitsAt_cons (h : ¬ separator <+: cs) :
    SplitsAt separator (c :: cs) i ↔ ∃ j, i = j + 1 ∧ SplitsAt separator cs j := by
  constructor
  · rintro ⟨⟨hi, hprefix⟩, hleast⟩
    obtain ⟨j, rfl⟩ := Nat.exists_eq_add_one.mpr hi
    rw [List.drop_succ_cons] at hprefix
    have hj : 1 ≤ j := Nat.one_le_iff_ne_zero.mpr fun hzero => h (by rwa [hzero] at hprefix)
    refine ⟨j, rfl, ⟨hj, hprefix⟩, fun k hk => ?_⟩
    exact Nat.le_of_succ_le_succ (hleast ⟨Nat.le_add_left 1 k, hk.2⟩)
  · rintro ⟨j, rfl, ⟨hj, hprefix⟩, hleast⟩
    refine ⟨⟨Nat.le_add_left 1 j, hprefix⟩, fun k hk => ?_⟩
    obtain ⟨hk, hprefix⟩ := hk
    obtain ⟨k, rfl⟩ := Nat.exists_eq_add_one.mpr hk
    rw [List.drop_succ_cons] at hprefix
    have hk : 1 ≤ k := Nat.one_le_iff_ne_zero.mpr fun hzero => h (by rwa [hzero] at hprefix)
    exact Nat.succ_le_succ (hleast ⟨hk, hprefix⟩)

/-- A text without line ends is split at the first place of the separator. -/
theorem splitAfterOne?_eq_some_iff (hseparator : separator ≠ []) (hline : '\n' ∉ cs) :
    splitAfterOne? separator cs = some (before, rest) ↔
      ∃ i, SplitsAt separator cs i ∧ before = cs.take i ∧
        rest = cs.drop (i + separator.length) := by
  induction cs generalizing before with
  | nil => simp [splitAfterOne?, not_splitsAt_nil hseparator]
  | cons c cs ih =>
    obtain ⟨hc, hcs⟩ := List.ne_and_not_mem_of_not_mem_cons hline
    rw [splitAfterOne?, if_neg (Ne.symm hc)]
    by_cases hprefix : separator <+: cs
    · rw [if_pos (List.isPrefixOf_iff_prefix.mpr hprefix)]
      have hone : SplitsAt separator (c :: cs) 1 := splitsAt_one hprefix
      constructor
      · intro h
        cases h
        exact ⟨1, hone, rfl, by rw [Nat.add_comm, List.drop_succ_cons]⟩
      · rintro ⟨i, hi, rfl, rfl⟩
        rw [IsLeast.unique hi hone, Nat.add_comm, List.drop_succ_cons]
        rfl
    · rw [if_neg (mt List.isPrefixOf_iff_prefix.mp hprefix), Option.map_eq_some_iff]
      simp only [splitsAt_cons hprefix]
      constructor
      · rintro ⟨⟨first, last⟩, hparts, heq⟩
        cases heq
        obtain ⟨j, hj, rfl, rfl⟩ := (ih hcs).mp hparts
        exact ⟨j + 1, ⟨j, rfl, hj⟩, rfl, by rw [Nat.add_right_comm, List.drop_succ_cons]⟩
      · rintro ⟨_, ⟨j, rfl, hj⟩, rfl, rfl⟩
        have hdrop : (c :: cs).drop (j + 1 + separator.length) =
            cs.drop (j + separator.length) := by
          rw [Nat.add_right_comm, List.drop_succ_cons]
        exact ⟨(cs.take j, _), (ih hcs).mpr ⟨j, hj, rfl, hdrop⟩, rfl⟩

end Splits

/-! ## Domains -/

/-- A domain ends before the first slash behind its first character, or with the text. -/
def DomainEndsAt (cs : List Char) (k : Nat) : Prop :=
  IsLeast {k | 1 ≤ k ∧ k ≤ cs.length ∧ ∀ c ∈ cs[k]?, c = '/'} k

section Domains

variable {cs domain : List Char} {c : Char} {k : Nat}

/-- There is a domain only where something is left of the text. -/
theorem DomainEndsAt.lt_length {i : Nat} (h : DomainEndsAt (cs.drop i) k) : i < cs.length := by
  obtain ⟨⟨hk, hlength, -⟩, -⟩ := h
  rw [List.length_drop] at hlength
  omega

theorem isLeast_length_takeWhile (cs : List Char) :
    IsLeast {k | k ≤ cs.length ∧ ∀ c ∈ cs[k]?, c = '/'} (cs.takeWhile (· ≠ '/')).length := by
  induction cs with
  | nil => exact ⟨⟨Nat.le_refl 0, by simp⟩, fun _ _ => Nat.zero_le _⟩
  | cons c cs ih =>
    obtain ⟨⟨hlength, hslash⟩, hleast⟩ := ih
    by_cases hc : c = '/'
    · rw [List.takeWhile_cons_of_neg (by simpa using hc)]
      exact ⟨⟨Nat.zero_le _, by simpa using hc⟩, fun _ _ => Nat.zero_le _⟩
    · rw [List.takeWhile_cons_of_pos (by simpa using hc)]
      refine ⟨⟨Nat.succ_le_succ hlength, hslash⟩, fun k hk => ?_⟩
      cases k with
      | zero => exact absurd (hk.2 c rfl) hc
      | succ k => exact Nat.succ_le_succ (hleast ⟨Nat.le_of_succ_le_succ hk.1, hk.2⟩)

theorem domainEndsAt_cons (c : Char) (cs : List Char) :
    DomainEndsAt (c :: cs) ((cs.takeWhile (· ≠ '/')).length + 1) := by
  obtain ⟨⟨hlength, hslash⟩, hleast⟩ := isLeast_length_takeWhile cs
  refine ⟨⟨Nat.le_add_left 1 _, Nat.succ_le_succ hlength, hslash⟩, fun k hk => ?_⟩
  obtain ⟨hk, hlength, hslash⟩ := hk
  obtain ⟨k, rfl⟩ := Nat.exists_eq_add_one.mpr hk
  exact Nat.succ_le_succ (hleast ⟨Nat.le_of_succ_le_succ hlength, hslash⟩)

/-- Without line ends what is inside of a domain ends with a slash or the text. -/
theorem inside_domain (hline : '\n' ∉ cs) :
    cs.takeWhile (fun d => d ≠ '/' && d ≠ '\n') = cs.takeWhile (· ≠ '/') ∧
    ((cs.dropWhile fun d => d ≠ '/' && d ≠ '\n').head? = some '/' ∨
      isFinished (cs.dropWhile fun d => d ≠ '/' && d ≠ '\n') = true) := by
  induction cs with
  | nil => exact ⟨rfl, .inr rfl⟩
  | cons c cs ih =>
    obtain ⟨hc, hcs⟩ := List.ne_and_not_mem_of_not_mem_cons hline
    by_cases hslash : c = '/'
    · simp [hslash]
    · simpa [hslash, Ne.symm hc] using ih hcs

/-- Without line ends a domain is read up to a slash or the end. -/
theorem readDomain?_cons (hline : '\n' ∉ c :: cs) :
    readDomain? (c :: cs) = some (c :: cs.takeWhile (· ≠ '/')) := by
  obtain ⟨hc, hcs⟩ := List.ne_and_not_mem_of_not_mem_cons hline
  obtain ⟨hinside, hend⟩ := inside_domain hcs
  rw [readDomain?, if_neg (Ne.symm hc), if_pos (by simpa using hend), hinside]

theorem readDomain?_eq_some_iff (hline : '\n' ∉ cs) :
    readDomain? cs = some domain ↔ ∃ k, DomainEndsAt cs k ∧ domain = cs.take k := by
  cases cs with
  | nil =>
    simp only [readDomain?, reduceCtorEq, false_iff, not_exists, not_and]
    rintro k ⟨⟨hk, hlength, -⟩, -⟩
    exact absurd hk (Nat.not_le_of_lt (Nat.lt_succ_of_le hlength))
  | cons c cs =>
    have hend := domainEndsAt_cons c cs
    have htake : c :: cs.takeWhile (· ≠ '/') =
        (c :: cs).take ((cs.takeWhile (· ≠ '/')).length + 1) := by
      rw [List.take_succ_cons, ← List.prefix_iff_eq_take.mp (List.takeWhile_prefix _)]
    rw [readDomain?_cons hline, htake]
    constructor
    · intro h
      cases h
      exact ⟨_, hend, rfl⟩
    · rintro ⟨k, hk, rfl⟩
      rw [IsLeast.unique hk hend]

end Domains

/-! ## Parts of links -/

section Parts

variable {cs protocol domain : List Char}

theorem splitUrl?_eq_some_iff (hline : '\n' ∉ cs) :
    splitUrl? cs = some (protocol, domain) ↔
      ∃ i, SplitsAt "://".toList cs i ∧ protocol = cs.take i ∧
        ∃ k, DomainEndsAt (cs.drop (i + 3)) k ∧ domain = (cs.drop (i + 3)).take k := by
  have hsplit : splitUrl? cs = some (protocol, domain) ↔ ∃ rest,
      splitAfterOne? "://".toList cs = some (protocol, rest) ∧ readDomain? rest = some domain := by
    simp [splitUrl?, Option.bind_eq_some_iff]
  have hdrop : ∀ i, '\n' ∉ cs.drop i := fun i hmem => hline (List.mem_of_mem_drop hmem)
  rw [hsplit]
  simp only [splitAfterOne?_eq_some_iff (by decide : "://".toList ≠ []) hline]
  constructor
  · rintro ⟨rest, ⟨i, hi, rfl, rfl⟩, hdomain⟩
    exact ⟨i, hi, rfl, (readDomain?_eq_some_iff (hdrop _)).mp hdomain⟩
  · rintro ⟨i, hi, rfl, hdomain⟩
    exact ⟨_, ⟨i, hi, rfl, rfl⟩, (readDomain?_eq_some_iff (hdrop _)).mpr hdomain⟩

theorem splitEmail?_eq_some_iff (hline : '\n' ∉ cs) :
    splitEmail? cs = some domain ↔
      ∃ i, SplitsAt ['@'] cs i ∧ i + 1 < cs.length ∧ domain = cs.drop (i + 1) := by
  have hwhole : ∀ i, (cs.drop i).takeWhile (· ≠ '\n') = cs.drop i := by
    intro i
    refine List.takeWhile_eq_self_iff.mpr fun c hc => decide_eq_true ?_
    rintro rfl
    exact hline (List.mem_of_mem_drop hc)
  have hsplit : splitEmail? cs = some domain ↔ ∃ i, SplitsAt ['@'] cs i ∧
      (if !(cs.drop (i + 1)).isEmpty && isFinished ((cs.drop (i + 1)).drop (cs.drop (i + 1)).length)
        then some (cs.drop (i + 1)) else none) = some domain := by
    simp only [splitEmail?, Option.bind_eq_bind, Option.bind_eq_some_iff, Prod.exists,
      splitAfterOne?_eq_some_iff (by decide : ['@'] ≠ []) hline]
    constructor
    · rintro ⟨before, rest, ⟨i, hi, rfl, rfl⟩, h⟩
      exact ⟨i, hi, by simpa only [List.length_singleton, hwhole] using h⟩
    · rintro ⟨i, hi, h⟩
      exact ⟨_, _, ⟨i, hi, rfl, rfl⟩, by simpa only [List.length_singleton, hwhole] using h⟩
  rw [hsplit]
  refine exists_congr fun i => and_congr_right fun _ => ?_
  have hfinished : isFinished ((cs.drop (i + 1)).drop (cs.drop (i + 1)).length) = true := by
    rw [List.drop_length]
    rfl
  have hempty : (!(cs.drop (i + 1)).isEmpty) = decide (i + 1 < cs.length) := by
    rw [Bool.eq_iff_iff]
    simp
  rw [hfinished, hempty, Bool.and_true]
  by_cases hlt : i + 1 < cs.length
  · rw [if_pos (decide_eq_true hlt), Option.some_inj, eq_comm]
    exact (and_iff_right hlt).symm
  · rw [if_neg (by simpa using hlt)]
    exact iff_of_false (by simp) fun h => hlt h.1

/-- Only a text is equal to a text. -/
theorem Value.looseEq_text_iff {v : Value} {t : String} :
    v.looseEq (.text t) = true ↔ v = .text t := by
  cases v <;> simp [looseEq]

/-- A value lists a text: as one of its members, or if it is a text itself, as a part of it. -/
def Value.Lists (v : Value) (t : String) : Prop :=
  match v with
  | .text s => t.toList <:+: s.toList
  | v => ∃ members, v.members? = some members ∧ .text t ∈ members

theorem occursIn_iff {part : List Char} : occursIn part cs = true ↔ part <:+: cs := by
  induction cs with
  | nil => simp [occursIn]
  | cons c cs ih => simp [occursIn, ih, List.infix_cons_iff]

theorem listsProtocol_eq_ok_iff {v : Value} :
    listsProtocol v protocol = .ok true ↔ v.Lists (String.ofList protocol) := by
  have hlisted : ∀ v : Value,
      (v.listed >>= fun members => (Except.ok (members.any
        (·.looseEq (.text (String.ofList protocol)))) : Except Fault Bool)) = .ok true ↔
      ∃ members, v.members? = some members ∧ .text (String.ofList protocol) ∈ members := by
    intro v
    cases hmembers : v.members? <;>
      simp [Value.listed, hmembers, List.any_eq_true, Value.looseEq_text_iff]
  cases v with
  | text s => simp [listsProtocol, Value.Lists, occursIn_iff]
  | _ => exact hlisted _

theorem checkPart_eq_ok_iff {ctx : Context} {type : Value} {part : String}
    {asked : Option Value} : checkPart ctx type part asked protocol = .ok () ↔
      ∀ v ∈ asked, v = .text (String.ofList protocol) := by
  simp [checkPart, Value.looseEq_text_iff]

theorem UrlRule.checkParts_eq_ok_iff {rule : UrlRule} {ctx : Context} {type : Value} :
    rule.checkParts ctx type protocol domain = .ok () ↔
      (∀ v ∈ rule.protocols, v.Lists (String.ofList protocol)) ∧
      (∀ v ∈ rule.protocol, v = .text (String.ofList protocol)) ∧
      ∀ v ∈ rule.domain, v = .text (String.ofList domain) := by
  simp [checkParts, bind_eq_ok, ofFault_eq_ok, checkPart_eq_ok_iff, listsProtocol_eq_ok_iff]

end Parts

/-! ## Links that are accepted -/

section Accepted

variable {s : String} {ctx : Context}

namespace Leaf

/-- Which links are accepted: those whose separator stands behind their first character and before
their last one, if what is asked of the parts is true of what stands before the first such
separator, and of what comes after it, in a url up to a slash.  What is accepted comes out without
the blanks around it. -/
theorem parse_link_iff {t : List Char} (ht : Text.trimChars s.toList = t) (hne : t ≠ [])
    (hline : '\n' ∉ t) (hctx : ctx.Plain) (setting : Setting) (nonEmpty : Value)
    (domain protocol protocols : Option Value) (w : Value) :
    ((Leaf.url { text := { nonEmpty }, domain, protocol, protocols }).parse setting (.text s) ctx =
        .ok w ↔ w = .text (String.ofList t) ∧
      ∃ i, SplitsAt "://".toList t i ∧ i + 3 < t.length ∧
        (∀ v ∈ protocols, v.Lists (String.ofList (t.take i))) ∧
        (∀ v ∈ protocol, v = .text (String.ofList (t.take i))) ∧
        ∃ k, DomainEndsAt (t.drop (i + 3)) k ∧
          ∀ v ∈ domain, v = .text (String.ofList ((t.drop (i + 3)).take k))) ∧
    ((Leaf.email { text := { nonEmpty }, domain }).parse setting (.text s) ctx =
        .ok w ↔ w = .text (String.ofList t) ∧
      ∃ i, SplitsAt "@".toList t i ∧ i + 1 < t.length ∧
        ∀ v ∈ domain, v = .text (String.ofList (t.drop (i + 1)))) := by
  subst ht
  have htrim := Text.trim_ne_empty hne
  constructor
  · rw [Leaf.parse, map_eq_ok]
    simp only [UrlRule.parse_bare_eq_ok_iff hctx htrim, Prod.exists,
      splitUrl?_eq_some_iff hline,
      UrlRule.checkParts_eq_ok_iff, Text.toList_trim]
    constructor
    · rintro ⟨_, ⟨rfl, _, _, ⟨i, hi, rfl, k, hk, rfl⟩, hprotocols, hprotocol, hdomain⟩, rfl⟩
      exact ⟨rfl, i, hi, hk.lt_length, hprotocols, hprotocol, k, hk, hdomain⟩
    · rintro ⟨rfl, i, hi, -, hprotocols, hprotocol, k, hk, hdomain⟩
      exact ⟨_, ⟨rfl, _, _, ⟨i, hi, rfl, k, hk, rfl⟩, hprotocols, hprotocol, hdomain⟩, rfl⟩
  · rw [Leaf.parse, map_eq_ok]
    simp only [EmailRule.parse_bare_eq_ok_iff hctx htrim, splitEmail?_eq_some_iff hline,
      checkPart_eq_ok_iff, Text.toList_trim]
    constructor
    · rintro ⟨_, ⟨rfl, _, ⟨i, hi, hlt, rfl⟩, hdomain⟩, rfl⟩
      exact ⟨rfl, i, hi, hlt, hdomain⟩
    · rintro ⟨rfl, i, hi, hlt, hdomain⟩
      exact ⟨_, ⟨rfl, _, ⟨i, hi, hlt, rfl⟩, hdomain⟩, rfl⟩

/-- A least number is found by a search from below. -/
theorem isLeast_of_forall_lt {p : Nat → Prop} {i : Nat} (hi : p i) (h : ∀ j < i, ¬ p j) :
    IsLeast {j | p j} i :=
  ⟨hi, fun j hj => Nat.le_of_not_lt fun hlt => h j hlt hj⟩

/-- A rule for urls of one host. -/
def hostRule : UrlRule where
  domain := some (.text "host:")
  protocol := some (.text "https")
  protocols := some (.list [.text "http", .text "https"])

theorem parse_link_iff_twice :
    (Leaf.url hostRule).parse "en" (.text " https://host://x ") .root =
      .ok (.text "https://host://x") ∧
    (Leaf.email { domain := some (.text "b") }).parse "en" (.text " @a@b ") .root =
      .ok (.text "@a@b") := by
  constructor
  · have htrim : Text.trimChars " https://host://x ".toList = "https://host://x".toList := by
      decide +kernel
    have hsplits : SplitsAt "://".toList "https://host://x".toList 5 :=
      isLeast_of_forall_lt (by decide) (by decide)
    have hends : DomainEndsAt ("https://host://x".toList.drop 8) 5 :=
      domainEndsAt_cons 'h' "ost://x".toList
    exact (parse_link_iff htrim (by decide) (by decide) Context.plain_root "en" (.bool false)
      (some (.text "host:")) (some (.text "https"))
      (some (.list [.text "http", .text "https"])) _).1.mpr
        ⟨rfl, 5, hsplits, by decide, by simp [Value.Lists, Value.members?], by simp, 5, hends,
          by simp⟩
  · have htrim : Text.trimChars " @a@b ".toList = "@a@b".toList := by decide +kernel
    have hsplits : SplitsAt "@".toList "@a@b".toList 2 :=
      isLeast_of_forall_lt (by decide) (by decide)
    exact (parse_link_iff htrim (by decide) (by decide) Context.plain_root "en" (.bool false)
      (some (.text "b")) none none _).2.mpr ⟨rfl, 2, hsplits, by decide, by simp⟩

end Leaf

end Accepted

end Intake
