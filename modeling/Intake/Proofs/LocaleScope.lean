import Intake.LocaleScope
import Intake.Schema.Parse
import Mathlib.Data.List.Induction
import Mathlib.Logic.Function.Iterate

/-!
# Scopes of a run

A run enters scopes, exits them, and parses; a parse that is not accepted leaves as many scopes as
it is not caught in.  Each scope stores one locale, which may come from a scope around it, and
closing scopes forgets the locales that they stored.  What such a run should do is said without
this: the active locale is the innermost that was given, and leaving a scope brings back the locale
that was active where the scope was entered.

## Main definitions

* `ScopeStep`, `LocaleScopes.run` — a run and the scopes it gets to.
* `ScopeEntry`, `innermost` — an open scope with the run before it, and the innermost given locale.
* `Nested` — a run leaves only scopes that are open.
* `Restores` — the active locale is as it should be, now and after the next step.

## Main statements

* `LocaleScopes.run_of_nested` — the stored locales are the innermost ones of the scopes around.
* `restores_of_nested` — well-nested runs restore the locale at every point.
-/

namespace Intake

/-! ## Runs -/

/-- A step of a run. -/
inductive ScopeStep where
  /-- A scope is entered, with a locale of its own or without. -/
  | enter (locale : Option String)
  /-- The innermost scope is exited. -/
  | exit
  /-- An input is parsed, by some clocks; if it is not accepted, this leaves so many scopes. -/
  | parse (zone : Calendar.Zone) (schema : Schema) (v : Value) (ctx : Context) (left : Nat)

namespace LocaleScopes

/-- The scopes after a step. -/
def after (scopes : LocaleScopes) : ScopeStep → LocaleScopes
  | .enter locale => scopes.enter locale
  | .exit => scopes.leave
  | .parse zone schema v ctx left =>
    match schema.parse ⟨scopes.current, zone⟩ v ctx with
    | .ok _ => scopes
    | .error _ => leave^[left] scopes

/-- The scopes after a run. -/
def run (steps : List ScopeStep) : LocaleScopes :=
  steps.foldl after {}

@[simp] theorem run_concat (steps : List ScopeStep) (step : ScopeStep) :
    run (steps ++ [step]) = (run steps).after step := by
  simp only [run, List.foldl_append, List.foldl_cons, List.foldl_nil]

end LocaleScopes

/-! ## Open scopes -/

/-- An open scope: the run before it was entered, and its own locale. -/
structure ScopeEntry where
  before : List ScopeStep
  locale : Option String

/-- The locale of the innermost scope that was entered with one. -/
def innermost (opened : List ScopeEntry) : String :=
  (opened.findSome? fun entry => entry.locale.filter (· ≠ "")).getD defaultLocale

/-- A run leaves only scopes that are open, and these are open after it.  Inputs are parsed under
the innermost locale. -/
inductive Nested : List ScopeStep → List ScopeEntry → Prop
  | start : Nested [] []
  | enter {steps opened} (locale : Option String) :
      Nested steps opened → Nested (steps ++ [.enter locale]) (⟨steps, locale⟩ :: opened)
  | exit {steps entry opened} :
      Nested steps (entry :: opened) → Nested (steps ++ [.exit]) opened
  | accepted {steps opened zone schema v ctx w} (left : Nat) :
      Nested steps opened → Schema.parse ⟨innermost opened, zone⟩ schema v ctx = .ok w →
      Nested (steps ++ [.parse zone schema v ctx left]) opened
  | raised {steps closed opened zone schema v ctx failure} :
      Nested steps (closed ++ opened) →
      Schema.parse ⟨innermost (closed ++ opened), zone⟩ schema v ctx = .error failure →
      Nested (steps ++ [.parse zone schema v ctx closed.length]) opened

/-- The active locale is the innermost one.  Whichever step is next, it changes nothing if it is a
parse that is accepted; and whatever scopes it leaves, in order or by a failure, the active locale
is again what it was just before the last of them was entered. -/
structure Restores (steps : List ScopeStep) (opened : List ScopeEntry) : Prop where
  current : (LocaleScopes.run steps).current = innermost opened
  accepted : ∀ zone schema v ctx left w,
    Schema.parse ⟨(LocaleScopes.run steps).current, zone⟩ schema v ctx = .ok w →
    LocaleScopes.run (steps ++ [.parse zone schema v ctx left]) = LocaleScopes.run steps
  exit : ∀ entry kept, opened = entry :: kept →
    (LocaleScopes.run (steps ++ [.exit])).current = (LocaleScopes.run entry.before).current
  raised : ∀ closed entry kept zone schema v ctx failure, opened = closed ++ entry :: kept →
    Schema.parse ⟨(LocaleScopes.run steps).current, zone⟩ schema v ctx = .error failure →
    (LocaleScopes.run (steps ++ [.parse zone schema v ctx (closed.length + 1)])).current =
      (LocaleScopes.run entry.before).current

/-! ## What scopes store -/

/-- The locales that open scopes store. -/
def stored : List ScopeEntry → List String
  | [] => []
  | entry :: opened => innermost (entry :: opened) :: stored opened

theorem innermost_cons (entry : ScopeEntry) (opened : List ScopeEntry) :
    innermost (entry :: opened) = (entry.locale.filter (· ≠ "")).getD (innermost opened) := by
  rw [innermost, innermost, List.findSome?_cons]
  cases entry.locale.filter (· ≠ "") <;> rfl

namespace LocaleScopes

@[simp] theorem current_stored (opened : List ScopeEntry) :
    current ⟨stored opened⟩ = innermost opened := by
  cases opened <;> rfl

theorem enter_stored (steps : List ScopeStep) (locale : Option String) (opened : List ScopeEntry) :
    enter ⟨stored opened⟩ locale = ⟨stored (⟨steps, locale⟩ :: opened)⟩ := by
  rw [enter, stored, innermost_cons, current_stored]

theorem leave_stored (closed opened : List ScopeEntry) :
    leave^[closed.length] ⟨stored (closed ++ opened)⟩ = ⟨stored opened⟩ := by
  induction closed with
  | nil => rfl
  | cons entry closed ih => exact ih

/-- The scopes that are open after a well-nested run store their innermost locales. -/
theorem run_of_nested {steps : List ScopeStep} {opened : List ScopeEntry}
    (h : Nested steps opened) : run steps = ⟨stored opened⟩ := by
  induction h with
  | start => rfl
  | enter locale _ ih => rw [run_concat, ih, after, enter_stored]
  | exit _ ih =>
    rw [run_concat, ih]
    rfl
  | accepted left _ hparse ih => rw [run_concat, ih, after, current_stored, hparse]
  | raised _ hparse ih => rw [run_concat, ih, after, current_stored, hparse, leave_stored]

end LocaleScopes

/-! ## Every point of a run -/

theorem Nested.exists_dropLast {steps : List ScopeStep} {opened : List ScopeEntry}
    (h : Nested steps opened) : ∃ opened', Nested steps.dropLast opened' := by
  cases h with
  | start => exact ⟨_, .start⟩
  | enter _ h | exit h | accepted _ h _ | raised h _ =>
    rw [List.dropLast_concat]
    exact ⟨_, h⟩

/-- A well-nested run is well-nested up to every point of it. -/
theorem Nested.exists_before {before rest : List ScopeStep} {opened : List ScopeEntry}
    (h : Nested (before ++ rest) opened) : ∃ opened', Nested before opened' := by
  induction rest using List.reverseRecOn generalizing opened with
  | nil => exact ⟨opened, List.append_nil before ▸ h⟩
  | append_singleton rest step ih =>
    obtain ⟨opened', h'⟩ := h.exists_dropLast
    rw [← List.append_assoc, List.dropLast_concat] at h'
    exact ih h'

/-- The run before an open scope was entered had the scopes open that are around it. -/
theorem Nested.before_entry {steps : List ScopeStep} {opened closed kept : List ScopeEntry}
    {entry : ScopeEntry} (h : Nested steps opened) (hopened : opened = closed ++ entry :: kept) :
    Nested entry.before kept := by
  induction h generalizing closed with
  | start => simp at hopened
  | enter locale h ih =>
    rcases List.cons_eq_append_iff.mp hopened with ⟨rfl, heq⟩ | ⟨closed', rfl, heq⟩
    · cases heq
      exact h
    · exact ih heq
  | @exit _ inner _ _ ih => exact @ih (inner :: closed) (congrArg (inner :: ·) hopened)
  | accepted left _ _ ih => exact ih hopened
  | raised _ _ ih => exact ih (by rw [hopened, List.append_assoc])

/-- Well-nested runs restore the locale. -/
theorem Nested.restores {steps : List ScopeStep} {opened : List ScopeEntry}
    (h : Nested steps opened) : Restores steps opened := by
  have hrun := LocaleScopes.run_of_nested h
  -- The scopes that are left are the first ones, and the next one is what brings the locale back.
  have hback : ∀ closed entry kept, opened = closed ++ entry :: kept →
      LocaleScopes.leave^[closed.length + 1] (LocaleScopes.run steps) =
        LocaleScopes.run entry.before := by
    intro closed entry kept hopened
    have hstored := LocaleScopes.leave_stored (closed ++ [entry]) kept
    rw [hrun, LocaleScopes.run_of_nested (h.before_entry hopened), ← hstored, hopened]
    simp
  constructor
  · rw [hrun, LocaleScopes.current_stored]
  · intro zone schema v ctx left w hparse
    rw [LocaleScopes.run_concat, LocaleScopes.after, hparse]
  · intro entry kept hopened
    rw [LocaleScopes.run_concat, ← hback [] entry kept hopened]
    rfl
  · intro closed entry kept zone schema v ctx failure hopened hparse
    rw [LocaleScopes.run_concat, LocaleScopes.after, hparse, ← hback closed entry kept hopened]

/-- At every point of a well-nested run the active locale is that of the innermost open scope that
was entered with one, and leaving scopes, in order or by a failure, brings back the locale that was
active just before they were entered. -/
theorem restores_of_nested {steps : List ScopeStep} {opened : List ScopeEntry}
    (h : Nested steps opened) (before rest : List ScopeStep) (hsteps : steps = before ++ rest) :
    (∃ opened', Nested before opened') ∧ ∀ opened', Nested before opened' →
      Restores before opened' :=
  ⟨(hsteps ▸ h).exists_before, fun _ h => h.restores⟩

/-- Numbers as people write them. -/
def readableNumber : Schema :=
  .leaf (.number { readable := .bool true }) none

/-- A run with a German scope, in which a scope without a locale is left by a failure. -/
def germanRun : List ScopeStep :=
  [.enter (some "de-DE"), .enter none, .parse .utc readableNumber (.text "1.234") .root 0,
    .parse .utc readableNumber (.text "abc") .root 1, .exit]

theorem restores_of_nested_german :
    Nested germanRun [] ∧ (LocaleScopes.run (germanRun.take 4)).current = "de-DE" ∧
      (∃ opened, Nested (germanRun.take 4) opened) ∧
      ∀ opened, Nested (germanRun.take 4) opened → Restores (germanRun.take 4) opened := by
  have hnested : Nested germanRun [] := by
    have hentered := (Nested.start.enter (some "de-DE")).enter none
    have hparsed := hentered.accepted 0
      (show readableNumber.parse ⟨"de-DE", .utc⟩ (.text "1.234") .root = .ok (.int 1234) from rfl)
    exact (@Nested.raised _ [_] _ .utc readableNumber (.text "abc") .root _ hparsed rfl).exit
  exact ⟨hnested, rfl, restores_of_nested hnested (germanRun.take 4) (germanRun.drop 4) rfl⟩

end Intake
