import Intake.Proofs.Context

/-!
# Alike outcomes

One input is parsed in two contexts.  The outcomes are alike if both are the same value, or both
are rejections, or both are faults.  Rejections are put together differently, but a union looks at
two things they say: whether there is a reason at all, and what stands after it.

## Main definitions

* `Value.IsNote` — some text, or nothing.
* `Outcome.Alike` — outcomes that a context cannot tell apart, by the suffixes of two contexts.
* `ContextFree` — computations with such outcomes.

## Main statements

* `Outcome.Alike.bind`, `Outcome.Alike.ofFault` — computations in steps.
* `Context.Plain.alike_reject`, `Context.Plain.alike_rejectIf` — rejections.
* `Outcome.Alike.eq_ok_iff` — what alike outcomes have in common.
-/

namespace Intake

/-- Nothing, or a text that is not empty. -/
inductive Value.IsNote : Value → Prop
  | null : IsNote .null
  | text {s : String} (h : s ≠ "") : IsNote (.text s)

theorem Value.IsNote.isPhrase {v : Value} (h : v.IsNote) : v.IsPhrase := by
  cases h with
  | null => exact .null
  | text h => exact .text _

namespace Outcome

/-- The outcomes of one input in two contexts, given by the suffixes of their reasons, are alike:
the same value, two rejections or two faults.  Both rejections have a reason or neither has, and
contexts with the same note hand on the same note. -/
inductive Alike {α : Type} (p q : Value) : Outcome α → Outcome α → Prop
  | ok (a : α) : Alike p q (.ok a) (.ok a)
  | rejected {r s : Rejection} (reason : r.reason = "got " ↔ s.reason = "got ")
      (suffix : p = q → p.IsNote → r.reasonSuffix = s.reasonSuffix ∧ r.reasonSuffix.IsNote) :
      Alike p q (.error (.rejected r)) (.error (.rejected s))
  | faulted (e f : Fault) : Alike p q (.error (.faulted e)) (.error (.faulted f))

namespace Alike

variable {α β : Type} {p q p' q' : Value} {x y : Outcome α}

/-- A computation that only fails by a fault is alike in all contexts. -/
theorem ofFault (x : Except Fault α) : Alike p q (Outcome.ofFault x) (Outcome.ofFault x) := by
  cases x with
  | error fault => exact .faulted fault fault
  | ok a => exact .ok a

/-- Steps that are alike, whatever comes before, are alike one after the other. -/
theorem bind {f g : α → Outcome β} (h : Alike p q x y) (hfg : ∀ a, Alike p q (f a) (g a)) :
    Alike p q (x >>= f) (y >>= g) := by
  cases h with
  | ok a => exact hfg a
  | rejected reason suffix => exact .rejected reason suffix
  | faulted e f => exact .faulted e f

theorem map (f : α → β) (h : Alike p q x y) : Alike p q (f <$> x) (f <$> y) := by
  cases h with
  | ok a => exact .ok (f a)
  | rejected reason suffix => exact .rejected reason suffix
  | faulted e f => exact .faulted e f

/-- Outcomes in inner contexts are alike in the outer ones, if same notes of the outer contexts are
same notes of the inner ones. -/
theorem mono (hpq : p = q → p.IsNote → p' = q' ∧ p'.IsNote) (h : Alike p' q' x y) :
    Alike p q x y := by
  cases h with
  | ok a => exact .ok a
  | rejected reason suffix =>
    refine .rejected reason fun heq hnote => ?_
    obtain ⟨heq', hnote'⟩ := hpq heq hnote
    exact suffix heq' hnote'
  | faulted e f => exact .faulted e f

theorem mapM {f g : α → Outcome β} (h : ∀ a, Alike p q (f a) (g a)) (as : List α) :
    Alike p q (as.mapM f) (as.mapM g) := by
  induction as with
  | nil => exact .ok []
  | cons a as ih =>
    rw [List.mapM_cons, List.mapM_cons]
    exact (h a).bind fun b => ih.bind fun bs => .ok (b :: bs)

theorem eq_ok_iff (h : Alike p q x y) (a : α) : x = .ok a ↔ y = .ok a := by
  cases h with
  | ok b => rfl
  | rejected reason suffix => simp
  | faulted e f => simp

end Alike

end Outcome

open Outcome (Alike)

section Rejections

variable {α : Type} {c d : Context}

/-- An input that is rejected for the same reason is rejected alike. -/
theorem Context.Plain.alike_rejectAs (hc : c.Plain) (hd : d.Plain) {m n : Value}
    (hm : m.IsPhrase) (hn : n.IsPhrase) {t u reason reason' : String}
    (hreason : reason = "got " ↔ reason' = "got ") (es fs : List Rejection) :
    Alike c.reasonSuffix d.reasonSuffix
      (c.rejectAs m (.text t) (.text reason) es : Outcome α)
      (d.rejectAs n (.text u) (.text reason') fs) := by
  obtain ⟨message, hmessage⟩ := hc.rejectAs (α := α) hm t reason es
  obtain ⟨message', hmessage'⟩ := hd.rejectAs (α := α) hn u reason' fs
  rw [hmessage, hmessage']
  exact .rejected hreason fun heq hnote => ⟨heq, hnote⟩

theorem Context.Plain.alike_reject (hc : c.Plain) (hd : d.Plain) {a b : Value}
    (ha : ∃ t, a = .text t) (hb : ∃ t, b = .text t) (reason : String) :
    Alike c.reasonSuffix d.reasonSuffix (c.reject a reason : Outcome α) (d.reject b reason) := by
  obtain ⟨t, rfl⟩ := ha
  obtain ⟨u, rfl⟩ := hb
  exact hc.alike_rejectAs hd hc.name hd.name Iff.rfl [] []

theorem Context.Plain.alike_rejectIf (hc : c.Plain) (hd : d.Plain) {a b : Value}
    (ha : ∃ t, a = .text t) (hb : ∃ t, b = .text t) (bad : Bool) (reason : Except Fault String) :
    Alike c.reasonSuffix d.reasonSuffix (c.rejectIf bad a reason) (d.rejectIf bad b reason) := by
  cases bad with
  | false => exact .ok ()
  | true => exact (Alike.ofFault reason).bind fun text => hc.alike_reject hd ha hb text

/-- A computation that has alike outcomes in any two plain contexts. -/
def ContextFree (parse : Value → Context → Outcome α) : Prop :=
  ∀ ⦃c d : Context⦄, c.Plain → d.Plain → ∀ v,
    Alike c.reasonSuffix d.reasonSuffix (parse v c) (parse v d)

theorem ContextFree.map {parse : Value → Context → Outcome α} (h : ContextFree parse)
    {β : Type} (f : α → β) : ContextFree fun v ctx => f <$> parse v ctx :=
  fun _ _ hc hd v => (h hc hd v).map f

theorem alike_checkGiven {p q : Value} {given : Option α} {check check' : α → Outcome Unit}
    (h : ∀ a, Alike p q (check a) (check' a)) :
    Alike p q (checkGiven given check) (checkGiven given check') := by
  cases given with
  | none => exact .ok ()
  | some a => exact h a

end Rejections

end Intake
