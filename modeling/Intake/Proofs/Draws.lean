import Intake.Draws
import Intake.Proofs.Rule.Numeric

/-!
# What can be drawn

A computation that draws yields values of a kind if it never fails and ends in such a value, on
every stream of draws and from every place in it.

## Main definitions

* `Gen.Yields` — a computation that yields values with a property.

## Main statements

* `Gen.yields_pure`, `Gen.Yields.bind`, `Gen.Yields.map` — how that is put together.
* `Gen.yields_below`, `Gen.yields_pick` — what the basic ways to use a draw yield.
* `Gen.yields_unit`, `Gen.yields_delta` — binary numbers that are numbers.
-/

namespace Intake.Gen

open Numeric (Binary64 Number)

variable {α β : Type} {P : α → Prop} {Q : β → Prop}

/-- A computation has a value with a property, whatever is drawn. -/
def Yields (g : Gen α) (P : α → Prop) : Prop :=
  ∀ draws : Draws, ∃ a, (g.run.run draws).1 = .ok a ∧ P a

/-! ## Composition -/

theorem Yields.imp {P' : α → Prop} {g : Gen α} (h : g.Yields P) (hP : ∀ a, P a → P' a) :
    g.Yields P' := by
  intro draws
  obtain ⟨a, ha, hPa⟩ := h draws
  exact ⟨a, ha, hP a hPa⟩

theorem yields_pure {a : α} (h : P a) : (pure a : Gen α).Yields P :=
  fun _ => ⟨a, rfl, h⟩

theorem Yields.bind {g : Gen α} {f : α → Gen β} (hg : g.Yields P)
    (hf : ∀ a, P a → (f a).Yields Q) : (g >>= f).Yields Q := by
  intro draws
  obtain ⟨a, ha, hPa⟩ := hg draws
  obtain ⟨b, hb, hQb⟩ := hf a hPa (g.run.run draws).2
  -- the rest of the computation starts at the place that the first part has reached
  have hrun : (g >>= f).run.run draws = (ExceptT.bindCont f (g.run.run draws).1).run
      (g.run.run draws).2 := rfl
  rw [ha] at hrun
  exact ⟨b, (congrArg Prod.fst hrun).trans hb, hQb⟩

theorem Yields.map {g : Gen α} {f : α → β} (hg : g.Yields P) (hf : ∀ a, P a → Q (f a)) :
    (f <$> g).Yields Q := by
  rw [← bind_pure_comp]
  exact hg.bind fun a ha => yields_pure (hf a ha)

theorem yields_mapM {f : α → Gen β} {as : List α} (h : ∀ a ∈ as, (f a).Yields Q) :
    (as.mapM f).Yields fun bs => bs.length = as.length ∧ ∀ b ∈ bs, Q b := by
  induction as with
  | nil => exact yields_pure ⟨rfl, by simp⟩
  | cons a as ih =>
    obtain ⟨ha, has⟩ := List.forall_mem_cons.mp h
    rw [List.mapM_cons]
    refine ha.bind fun b hb => (ih has).bind fun bs ⟨hlength, hbs⟩ => yields_pure ?_
    exact ⟨by simp [hlength], List.forall_mem_cons.mpr ⟨hb, hbs⟩⟩

/-! ## Draws -/

theorem yields_next : next.Yields fun _ => True :=
  fun draws => ⟨draws.stream draws.used, rfl, trivial⟩

theorem yields_below {n : Nat} (hn : 0 < n) : (below n).Yields (· < n) := by
  refine yields_next.bind fun draw _ => yields_pure ?_
  rw [Nat.div_lt_iff_lt_mul (Nat.two_pow_pos 53), Nat.mul_comm]
  exact Nat.mul_lt_mul_of_pos_left draw.lt hn

theorem yields_pick {items : List α} (h : items ≠ []) : (pick items).Yields (· ∈ items) := by
  rw [pick, if_neg (by simpa using h)]
  refine (yields_below (List.length_pos_iff.mpr h)).bind fun n hn => ?_
  rw [List.getElem?_eq_getElem hn]
  exact yields_pure (List.getElem_mem hn)

theorem yields_coin : coin.Yields fun _ => True :=
  yields_next.bind fun _ _ => yields_pure trivial

theorem yields_smallId : smallId.Yields fun n => 1 ≤ n ∧ n ≤ 100 :=
  (yields_below (by decide : 0 < 100)).bind fun _ hn => yields_pure ⟨by omega, by omega⟩

theorem yields_hexDigit : hexDigit.Yields fun c => Text.isHexDigit c = true := by
  have hdigits : ∀ n < 16, Text.isHexDigit (Text.hexDigit n) = true := by decide
  exact (yields_below (by decide : 0 < 16)).bind fun n hn => yields_pure (hdigits n hn)

theorem yields_hexText : hexText.Yields fun s => s.length ≤ 12 := by
  refine (yields_below (Nat.two_pow_pos 48)).bind fun n hn => yields_pure ?_
  rw [String.length_ofList]
  exact (Nat.length_toDigits_le_iff (by decide) (by decide)).mpr (by simpa using hn)

/-! ## Binary numbers -/

theorem yields_unit : unit.Yields fun x => (Number.float x).isNaN = false :=
  yields_next.bind fun _ _ => yields_pure (Binary64.isNaN_ofRatio _ _ _)

theorem yields_delta {range : Binary64} (hrange : range.isFinite = true) :
    (delta range).Yields fun x => (Number.float x).isNaN = false :=
  yields_next.bind fun _ _ => yields_pure (Binary64.isNaN_scaleBy hrange _ _ _)

end Intake.Gen
