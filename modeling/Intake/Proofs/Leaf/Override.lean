import Intake.Proofs.Rule.Named

/-!
# The type in force

A context may have a type in force.  A leaf that rejects an input there expects that type, or text
of that type that is not empty, whatever it expects otherwise.  A leaf that leaves a part of its
work to another rule puts its type in force for that rule, so that nothing changes on the way.  The
leaf for keys is the exception: it puts a type of its own in force, whether or not there is one.

## Main definitions

* `Leaf.Honours` — a leaf that expects nothing but the type in force.

## Main statements

* `Leaf.honours_iff` — the leaves that do.
-/

namespace Intake

/-! ## Types in force -/

namespace Context

variable {ctx : Context} {type : String}

theorem overriding_overriding (ctx : Context) (first second : Value) :
    (ctx.overriding first).overriding second = ctx.overriding second := rfl

theorem isTruthy_of_override (htype : ctx.overrideType = .text type) (hne : type ≠ "") :
    ctx.overrideType.isTruthy = true := by
  rw [htype]
  simpa [Value.isTruthy] using hne

theorem expected_of_override (htype : ctx.overrideType = .text type) (hne : type ≠ "")
    (default : String) : ctx.expected default = .text type := by
  rw [expected, expectedOr, if_pos (isTruthy_of_override htype hne), htype]

end Context

/-- The expected type is the one that is asked for, or text of that type that is not empty. -/
theorem Rejection.Asks.expectedType_cases {ctx : Context} {type : String} {r : Rejection}
    (h : r.Asks ctx (.text type)) :
    r.expectedType = type ∨ r.expectedType = "non-empty " ++ type := by
  rcases h.expectedType with heq | heq
  · cases heq
    exact .inl rfl
  · simp only [TextRule.nonEmptyType, Except.ok.injEq, Value.text.injEq] at heq
    split at heq
    · exact .inl heq.symm
    · exact .inr heq.symm

/-! ## Leaves that expect the type in force -/

namespace Leaf

/-- Wherever the leaf rejects an input, it expects the given type or text of it that is not
empty. -/
def Honours (leaf : Leaf) (setting : Setting) (ctx : Context) (type : String) : Prop :=
  ∀ v r, leaf.parse setting v ctx = .error (.rejected r) →
    r.expectedType = type ∨ r.expectedType = "non-empty " ++ type

variable {leaf : Leaf} {ctx : Context} {type : String}

theorem honours_values {members : List Value} {nonempty : members ≠ []}
    (htype : ctx.overrideType = .text type) (hne : type ≠ "") (setting : Setting) :
    (Leaf.values members nonempty).Honours setting ctx type := by
  intro v r hr
  obtain ⟨-, hmember⟩ := rejection_parseMember hr
  rw [memberType, if_pos (Context.isTruthy_of_override htype hne), htype] at hmember
  cases hmember
  exact .inl rfl

/-- What is no number is no key. -/
theorem exists_rejected_id (hctx : ctx.Plain) (setting : Setting) : ∃ r,
    Leaf.id.parse setting .null ctx = .error (.rejected r) ∧ r.expectedType = "id" := by
  obtain ⟨message, hmessage⟩ :=
    (hctx.overriding (.text "id")).reject (α := Numeric.Number) "id" "got null" []
  have hread : idRule.read setting.locale (ctx.overriding (.text "id")) (.text "id") .null =
      .error (.rejected
        (.mk message ctx.name ctx.typePrefix "id" "got null" ctx.reasonSuffix [])) := hmessage
  have hid : (Value.text "id").isTruthy = true := rfl
  refine ⟨.mk message ctx.name ctx.typePrefix "id" "got null" ctx.reasonSuffix [], ?_, rfl⟩
  simp only [Leaf.parse, parseId, NumberRule.parseInt, NumberRule.parse,
    Context.overriding_overriding, Context.expected_overriding hid]
  rw [hread]
  rfl

/-- Where a type is in force, every leaf expects it in place of its own, but for the leaf for keys.
That one expects a key in every context, so that it only honours a type of this name. -/
theorem honours_iff {setting : Setting} (hleaf : leaf.BoundsHold setting.zone) (hctx : ctx.Plain)
    (htype : ctx.overrideType = .text type) (hne : type ≠ "") :
    leaf.Honours setting ctx type ↔ (leaf = .id → type = "id") := by
  constructor
  · rintro hhonours rfl
    obtain ⟨r, hr, hid⟩ := exists_rejected_id hctx setting
    rcases hhonours _ r hr with heq | heq
    · exact heq.symm.trans hid
    · -- the name of the type for keys is too short to begin with the other words
      have hlength := congrArg String.length (hid.symm.trans heq)
      have : "id".length = 2 ∧ "non-empty ".length = 10 := by decide
      rw [String.length_append] at hlength
      omega
  · intro h v r hr
    by_cases hid : leaf = .id
    · subst hid
      rw [h rfl]
      exact (rejectsFor_parse_id setting v ctx r hr).expectedType_cases
    · -- an enumeration rejects by no name, so that it does not count among the other leaves
      by_cases hvalues : ∃ members nonempty, leaf = .values members nonempty
      · obtain ⟨members, nonempty, rfl⟩ := hvalues
        exact honours_values htype hne setting v r hr
      · obtain ⟨default, hasks⟩ := exists_rejectsFor_parse hleaf hid
          (fun members nonempty heq => hvalues ⟨members, nonempty, heq⟩) v ctx
        rw [Context.expected_of_override htype hne] at hasks
        exact (hasks r hr).expectedType_cases

/-- The context of a birthday. -/
def birthday : Context where
  name := .text "born"
  overrideType := .text "birthday"

theorem honours_birthday :
    (Leaf.dateString { nonEmpty := .bool true }).Honours "en" birthday "birthday" ∧
      (∃ r, (Leaf.dateString { nonEmpty := .bool true }).parse "en" (.text " ") birthday =
        .error (.rejected r) ∧ r.expectedType = "non-empty birthday") ∧
      ¬ Leaf.id.Honours "en" birthday "birthday" := by
  have hctx : birthday.Plain := ⟨.text _, .null, .null, .text _⟩
  have hbounds : (Leaf.dateString { nonEmpty := .bool true }).BoundsHold .utc := by
    intro bound hbound
    rcases hbound with hmin | hmax
    · cases hmin
    · cases hmax
  refine ⟨(honours_iff hbounds hctx rfl (by decide)).mpr (by simp), ⟨_, rfl, rfl⟩, fun h => ?_⟩
  have hkeys : Leaf.id.BoundsHold .utc := trivial
  exact absurd ((honours_iff hkeys hctx rfl (by decide)).mp h rfl) (by decide)

/-- A key is rejected as no key, even where something else was asked for. -/
theorem exists_id_not_overridden : ∃ r,
    Leaf.id.parse "en" .null birthday = .error (.rejected r) ∧ Leaf.id.BoundsHold .utc ∧
      birthday.overrideType = .text "birthday" ∧ r.expectedType ≠ "birthday" ∧
      r.expectedType ≠ "non-empty " ++ "birthday" :=
  ⟨_, rfl, trivial, rfl, by decide, by decide⟩

end Leaf

end Intake
