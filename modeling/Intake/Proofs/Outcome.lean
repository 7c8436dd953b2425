import Intake.Outcome
import Mathlib.Data.List.Forall2

/-!
# Outcomes as a monad

A parse is put together from smaller ones, each of which may end it.  These equations take such a
computation apart, by the way it ends: with a value, with a rejection or with a fault.

## Main definitions

* `Outcome.RejectsWith` — what a computation rejects with.
* `Outcome.Faults` — a computation ends with a fault.
-/

namespace Intake.Outcome

variable {ε α β : Type}

@[simp] theorem ok_bind (a : α) (f : α → Except ε β) : (Except.ok a >>= f) = f a := rfl

@[simp] theorem error_bind (e : ε) (f : α → Except ε β) :
    (Except.error e >>= f) = .error e := rfl

@[simp] theorem map_ok (a : α) (f : α → β) : (f <$> (Except.ok a : Except ε α)) = .ok (f a) := rfl

@[simp] theorem map_error (e : ε) (f : α → β) :
    (f <$> (Except.error e : Except ε α)) = .error e := rfl

@[simp] theorem mapError_ok {ε' : Type} (a : α) (f : ε → ε') :
    (Except.ok a).mapError f = .ok a := rfl

@[simp] theorem mapError_error {ε' : Type} (e : ε) (f : ε → ε') :
    (Except.error e : Except ε α).mapError f = .error (f e) := rfl

@[simp] theorem pure_eq_ok (a : α) : (pure a : Except ε α) = .ok a := rfl

theorem bind_eq_ok {x : Except ε α} {f : α → Except ε β} {b : β} :
    x >>= f = .ok b ↔ ∃ a, x = .ok a ∧ f a = .ok b := by
  cases x <;> simp

/-- A check has only one result. -/
@[simp] theorem exists_unit {p : Unit → Prop} : (∃ u, p u) ↔ p () :=
  ⟨fun ⟨(), h⟩ => h, fun h => ⟨(), h⟩⟩

theorem check_bind_eq_ok {x : Except ε Unit} {f : Unit → Except ε β} {b : β} :
    x >>= f = .ok b ↔ x = .ok () ∧ f () = .ok b := by
  rw [bind_eq_ok, exists_unit]

theorem bind_eq_error {x : Except ε α} {f : α → Except ε β} {e : ε} :
    x >>= f = .error e ↔ x = .error e ∨ ∃ a, x = .ok a ∧ f a = .error e := by
  cases x <;> simp

theorem map_eq_ok {x : Except ε α} {f : α → β} {b : β} :
    f <$> x = .ok b ↔ ∃ a, x = .ok a ∧ f a = b := by
  cases x <;> simp

theorem map_eq_error {x : Except ε α} {f : α → β} {e : ε} :
    f <$> x = .error e ↔ x = .error e := by
  cases x <;> simp

@[simp] theorem exists_map_eq_error {x : Except ε α} {f : α → β} :
    (∃ e, f <$> x = .error e) ↔ ∃ e, x = .error e := by
  simp only [map_eq_error]

@[simp] theorem exists_mapError_eq_error {ε' : Type} {x : Except ε α} {f : ε → ε'} :
    (∃ e, x.mapError f = .error e) ↔ ∃ e, x = .error e := by
  cases x <;> simp

/-! ## Computations that can only fail by a fault -/

@[simp] theorem ofFault_ok (a : α) : ofFault (.ok a) = .ok a := rfl

@[simp] theorem ofFault_error (fault : Fault) :
    (ofFault (.error fault) : Outcome α) = .error (.faulted fault) := rfl

theorem ofFault_eq_ok {x : Except Fault α} {a : α} : ofFault x = .ok a ↔ x = .ok a := by
  cases x <;> simp

theorem ofFault_ne_rejected (x : Except Fault α) (r : Rejection) :
    ofFault x ≠ .error (.rejected r) := by
  cases x <;> simp

/-! ## Rejections -/

section Rejections

variable {P : Rejection → Prop} {x : Outcome α}

/-- If a computation ends with a rejection, that has a property. -/
def RejectsWith (P : Rejection → Prop) (x : Outcome α) : Prop :=
  ∀ r, x = .error (.rejected r) → P r

theorem rejectsWith_ok (a : α) : RejectsWith P (.ok a : Outcome α) := by
  rintro r ⟨⟩

theorem rejectsWith_faulted (fault : Fault) :
    RejectsWith P (.error (.faulted fault) : Outcome α) := by
  rintro r ⟨⟩

theorem rejectsWith_ofFault (y : Except Fault α) : RejectsWith P (ofFault y) := fun r h =>
  absurd h (ofFault_ne_rejected y r)

/-- In a sequence, what the second part rejects with may depend on the value of the first. -/
theorem RejectsWith.bind {f : α → Outcome β} (hx : x.RejectsWith P)
    (hf : ∀ a, x = .ok a → (f a).RejectsWith P) : (x >>= f).RejectsWith P := by
  intro r h
  rcases bind_eq_error.mp h with h | ⟨a, ha, h⟩
  · exact hx r h
  · exact hf a ha r h

theorem RejectsWith.map (hx : x.RejectsWith P) (f : α → β) : (f <$> x).RejectsWith P := by
  intro r h
  exact hx r (map_eq_error.mp h)

end Rejections

/-! ## Faults -/

/-- The computation ends with a fault. -/
def Faults (x : Outcome α) : Prop :=
  ∃ fault, x = .error (.faulted fault)

@[simp] theorem not_faults_ok (a : α) : ¬ Faults (.ok a : Outcome α) := by
  rintro ⟨fault, h⟩
  cases h

@[simp] theorem not_faults_rejected (r : Rejection) :
    ¬ Faults (.error (.rejected r) : Outcome α) := by
  rintro ⟨fault, h⟩
  cases h

@[simp] theorem faults_faulted (fault : Fault) : Faults (.error (.faulted fault) : Outcome α) :=
  ⟨fault, rfl⟩

@[simp] theorem faults_map {x : Outcome α} {f : α → β} : Faults (f <$> x) ↔ Faults x := by
  simp only [Faults, map_eq_error]

/-- A sequence faults where its first part does, or where that has a value from which the second
part does. -/
theorem faults_bind {x : Outcome α} {f : α → Outcome β} :
    Faults (x >>= f) ↔ Faults x ∨ ∃ a, x = .ok a ∧ Faults (f a) := by
  cases x <;> simp [Faults]

/-- A check and what follows it fault where the check does, or where it passes and the rest
faults. -/
theorem faults_check_bind {x : Outcome Unit} {f : Unit → Outcome β} :
    Faults (x >>= f) ↔ Faults x ∨ x = .ok () ∧ Faults (f ()) := by
  rw [faults_bind, exists_unit]

theorem faults_ofFault {x : Except Fault α} : Faults (ofFault x) ↔ ∃ fault, x = .error fault := by
  cases x <;> simp

/-- What does not fault is a value or a rejection. -/
theorem not_faults_iff {x : Outcome α} :
    ¬ Faults x ↔ (∃ a, x = .ok a) ∨ ∃ r, x = .error (.rejected r) := by
  rcases x with (r | fault) | a <;> simp

/-! ## Lists of computations -/

/-- If every value that comes out is one that stays as it is, so is a whole list of them. -/
theorem mapM_settles {f g : α → Except ε α} (h : ∀ a b, f a = .ok b → g b = .ok b) :
    ∀ {as bs : List α}, as.mapM f = .ok bs → bs.mapM g = .ok bs := by
  intro as
  induction as with
  | nil => intro bs hbs; cases hbs; rfl
  | cons a as ih =>
    intro bs hbs
    rw [List.mapM_cons, bind_eq_ok] at hbs
    obtain ⟨b, hb, hbs⟩ := hbs
    obtain ⟨rest, hrest, hbs⟩ := bind_eq_ok.mp hbs
    cases hbs
    rw [List.mapM_cons, h a b hb, ok_bind, ih hrest]
    rfl

/-- A list is computed member by member. -/
theorem mapM_eq_ok_iff {f : α → Except ε β} {as : List α} {bs : List β} :
    as.mapM f = .ok bs ↔ List.Forall₂ (fun a b => f a = .ok b) as bs := by
  induction as generalizing bs with
  | nil => cases bs <;> simp
  | cons a as ih =>
    rw [List.mapM_cons, bind_eq_ok, List.forall₂_cons_left_iff]
    constructor
    · rintro ⟨b, hb, h⟩
      obtain ⟨rest, hrest, h⟩ := bind_eq_ok.mp h
      cases h
      exact ⟨b, rest, hb, ih.mp hrest, rfl⟩
    · rintro ⟨b, rest, hb, hrest, rfl⟩
      exact ⟨b, hb, bind_eq_ok.mpr ⟨rest, ih.mpr hrest, rfl⟩⟩

/-- A list is computed if all of its members are. -/
theorem exists_mapM_eq_ok {P : β → Prop} {f : α → Except ε β} {as : List α}
    (h : ∀ a ∈ as, ∃ b, f a = .ok b ∧ P b) : ∃ bs, as.mapM f = .ok bs ∧ ∀ b ∈ bs, P b := by
  induction as with
  | nil => exact ⟨[], rfl, by simp⟩
  | cons a as ih =>
    obtain ⟨b, hb, hP⟩ := h a List.mem_cons_self
    obtain ⟨bs, hbs, hrest⟩ := ih fun a ha => h a (List.mem_cons_of_mem _ ha)
    refine ⟨b :: bs, ?_, List.forall_mem_cons.mpr ⟨hP, hrest⟩⟩
    rw [List.mapM_cons, hb, ok_bind, hbs]
    rfl

/-- A list fails where the members before one are computed and that one fails. -/
theorem mapM_eq_error {f : α → Except ε β} {as : List α} {e : ε} :
    as.mapM f = .error e ↔ ∃ before a after bs, as = before ++ a :: after ∧
      before.mapM f = .ok bs ∧ f a = .error e := by
  induction as with
  | nil => simp
  | cons a as ih =>
    rw [List.mapM_cons, bind_eq_error]
    constructor
    · rintro (ha | ⟨b, hb, h⟩)
      · exact ⟨[], a, as, [], rfl, rfl, ha⟩
      · rcases bind_eq_error.mp h with h | ⟨bs, -, h⟩
        · obtain ⟨before, a', after, bs, rfl, hbs, ha'⟩ := ih.mp h
          refine ⟨a :: before, a', after, b :: bs, rfl, ?_, ha'⟩
          rw [List.mapM_cons, hb, ok_bind, hbs]
          rfl
        · cases h
    · rintro ⟨before, a', after, bs, heq, hbs, ha'⟩
      cases before with
      | nil =>
        cases heq
        exact .inl ha'
      | cons b before =>
        cases heq
        rw [List.mapM_cons] at hbs
        obtain ⟨b, hb, hbs⟩ := bind_eq_ok.mp hbs
        obtain ⟨rest, hrest, -⟩ := bind_eq_ok.mp hbs
        refine .inr ⟨b, hb, bind_eq_error.mpr (.inl ?_)⟩
        exact ih.mpr ⟨before, a', after, rest, rfl, hrest, ha'⟩

theorem rejectsWith_mapM {P : Rejection → Prop} {f : α → Outcome β} {as : List α}
    (h : ∀ a ∈ as, (f a).RejectsWith P) : RejectsWith P (as.mapM f) := by
  intro r hr
  obtain ⟨before, a, after, -, rfl, -, ha⟩ := mapM_eq_error.mp hr
  exact h a (by simp) r ha

theorem exists_mapM_eq_error {f : α → Except ε β} {as : List α} {a : α} {e : ε} (ha : a ∈ as)
    (h : f a = .error e) : ∃ e', as.mapM f = .error e' := by
  induction as with
  | nil => simp at ha
  | cons b as ih =>
    rw [List.mapM_cons]
    rcases List.mem_cons.mp ha with rfl | ha
    · exact ⟨e, by rw [h]; rfl⟩
    · cases hb : f b with
      | error e' => exact ⟨e', rfl⟩
      | ok c =>
        obtain ⟨e', he'⟩ := ih ha
        exact ⟨e', by rw [ok_bind, he']; rfl⟩

theorem exists_mapM_eq_ok_iff {f : α → Except ε β} {as : List α} :
    (∃ bs, as.mapM f = .ok bs) ↔ ∀ a ∈ as, ∃ b, f a = .ok b := by
  constructor
  · rintro ⟨bs, hbs⟩ a ha
    cases hfa : f a with
    | ok b => exact ⟨b, rfl⟩
    | error e =>
      obtain ⟨e', he'⟩ := exists_mapM_eq_error ha hfa
      cases hbs.symm.trans he'
  · intro h
    obtain ⟨bs, hbs, -⟩ := exists_mapM_eq_ok (P := fun _ => True) fun a ha =>
      (h a ha).imp fun _ hb => ⟨hb, trivial⟩
    exact ⟨bs, hbs⟩

theorem exists_mem_of_forall₂ {R : α → β → Prop} {as : List α} {bs : List β}
    (h : List.Forall₂ R as bs) {a : α} (ha : a ∈ as) : ∃ b ∈ bs, R a b := by
  obtain ⟨i, hi, rfl⟩ := List.getElem_of_mem ha
  have hi' : i < bs.length := h.length_eq ▸ hi
  exact ⟨bs[i], List.getElem_mem hi', h.get hi hi'⟩

/-- What comes out of a list comes out of a member of it. -/
theorem exists_of_mem_mapM {f : α → Except ε β} {as : List α} {bs : List β} {b : β}
    (h : as.mapM f = .ok bs) (hb : b ∈ bs) : ∃ a ∈ as, f a = .ok b :=
  exists_mem_of_forall₂ (mapM_eq_ok_iff.mp h).flip hb

/-- What holds of all that comes out of a list. -/
theorem forall_mem_mapM_iff {P : β → Prop} {f : α → Except ε β} {as : List α} {bs : List β}
    (h : as.mapM f = .ok bs) : (∀ b ∈ bs, P b) ↔ ∀ a ∈ as, ∀ b, f a = .ok b → P b := by
  constructor
  · intro hP a ha b hb
    obtain ⟨c, hc, hfc⟩ := exists_mem_of_forall₂ (mapM_eq_ok_iff.mp h) ha
    cases hb.symm.trans hfc
    exact hP b hc
  · intro hP b hb
    obtain ⟨a, ha, hfa⟩ := exists_of_mem_mapM h hb
    exact hP a ha b hfa

theorem mapM_congr {f g : α → Except ε β} {as : List α} (h : ∀ a ∈ as, f a = g a) :
    as.mapM f = as.mapM g := by
  induction as with
  | nil => rfl
  | cons a as ih =>
    obtain ⟨ha, hrest⟩ := List.forall_mem_cons.mp h
    rw [List.mapM_cons, List.mapM_cons, ha, ih hrest]

theorem length_of_mapM_eq_ok {f : α → Except ε β} :
    ∀ {as : List α} {bs : List β}, as.mapM f = .ok bs → bs.length = as.length := by
  intro as
  induction as with
  | nil => intro bs hbs; cases hbs; rfl
  | cons a as ih =>
    intro bs hbs
    rw [List.mapM_cons, bind_eq_ok] at hbs
    obtain ⟨b, -, hbs⟩ := hbs
    obtain ⟨rest, hrest, hbs⟩ := bind_eq_ok.mp hbs
    cases hbs
    simp [ih hrest]

end Intake.Outcome
