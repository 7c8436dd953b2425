import Intake.Proofs.Faults.Numeric
import Intake.Proofs.Faults.Temporal

/-!
# Where leaves fault

A leaf whose options are of use either has a value for an input or rejects it, with few exceptions.
These are known in full: each kind of leaf has its own, and most have none.

## Main definitions

* `Leaf.Sound` — a leaf whose options are of use.
* `Leaf.Breaks` — the inputs on which it faults.

## Main statements

* `Leaf.faults_parse_iff` — it faults on those and on no others, in whatever context.
-/

namespace Intake

open Outcome (faults_bind faults_map faults_ofFault)
open Numeric (Number TooLong)

variable {ctx : Context} {v : Value}

/-! ## Truth values and fixed values -/

section Fixed

theorem not_faults_rejectKind {α : Type} (hctx : ctx.Plain) (type : String) :
    ¬ (ctx.rejectKind (ctx.expected type) v : Outcome α).Faults :=
  hctx.not_faults_reject (hctx.expected type) _

theorem not_faults_parseBoolean {asked : Option Bool} (hctx : ctx.Plain) :
    ¬ (parseBoolean asked v ctx).Faults := by
  simp only [parseBoolean]
  split
  · exact Outcome.not_faults_ok _
  · split
    · exact Outcome.not_faults_ok _
    · exact not_faults_rejectKind hctx _

theorem not_faults_parseCheckbox (hctx : ctx.Plain) : ¬ (parseCheckbox v ctx).Faults := by
  simp only [parseCheckbox]
  split
  · exact Outcome.not_faults_ok _
  · split
    · exact Outcome.not_faults_ok _
    · split
      · exact Outcome.not_faults_ok _
      · exact not_faults_rejectKind hctx _
  · exact not_faults_rejectKind hctx _

/-- A literal that can be written never faults. -/
theorem not_faults_parseLiteral {value : Value} (hvalue : ∃ text, value.json = .ok text)
    (hctx : ctx.Plain) : ¬ (parseLiteral value v ctx).Faults := by
  obtain ⟨text, htext⟩ := hvalue
  rw [parseLiteral]
  split
  · exact Outcome.not_faults_ok _
  · rw [htext]
    exact not_faults_rejectKind hctx _

theorem Value.describeExactly_eq_error_iff :
    (∃ fault, v.describeExactly = .error fault) ↔ ∃ n, v = .int n ∧ TooLong n := by
  cases v with
  | number n =>
    rw [describeExactly]
    split
    · rename_i hnan
      simp only [reduceCtorEq, exists_false, false_iff, not_exists, not_and]
      rintro i hi -
      cases hi
      cases hnan
    · rw [Outcome.exists_mapError_eq_error, Number.write_eq_error_iff]
      simp [Number.Unwritable, Value.int]
  | _ => simp [describeExactly, Value.int]

/-- An enumeration whose members can be written faults on integers of too many digits, unless one is
a member. -/
theorem faults_parseMember {members : List Value}
    (hmembers : ∃ text, (Value.list members).json = .ok text) (hctx : ctx.Plain) :
    (parseMember members v ctx).Faults ↔
      (∀ member ∈ members, v.same member = false) ∧ ∃ n, v = .int n ∧ TooLong n := by
  obtain ⟨type, htype⟩ := exists_memberType hctx hmembers
  rw [parseMember]
  split
  · rename_i member hfound
    have hsame := List.find?_some hfound
    have hmem := List.mem_of_find?_eq_some hfound
    simp only [Outcome.not_faults_ok, false_iff]
    rintro ⟨hnone, -⟩
    rw [hnone member hmem] at hsame
    cases hsame
  · rename_i hfound
    have hnone : ∀ member ∈ members, v.same member = false := by
      simpa using List.find?_eq_none.mp hfound
    rw [htype, Outcome.ofFault_ok, Outcome.ok_bind, faults_bind, faults_ofFault,
      Value.describeExactly_eq_error_iff, and_iff_right hnone, or_iff_left_iff_imp]
    rintro ⟨got, -, h⟩
    exact absurd h (hctx.not_faults_rejectAs .null ⟨type, rfl⟩ _ [])

end Fixed

/-! ## Leaves -/

namespace Leaf

variable {leaf : Leaf} {setting : Setting}

/-- A leaf whose options are of use: bounds that its rule can read, and fixed values that can be
written. -/
def Sound (zone : Calendar.Zone) : Leaf → Prop
  | .string rule => rule.Sound
  | .url rule => rule.Sound
  | .email rule => rule.Sound
  | .number rule => rule.Sound
  | .float rule => rule.Sound
  | .int rule => rule.Sound
  | .literal value => ∃ text, value.json = .ok text
  | .values members _ => ∃ text, (Value.list members).json = .ok text
  | .date rule => rule.Sound zone
  | .dateString rule => rule.Sound (readDateText zone)
  | .timeString rule precision => rule.Sound (readTimeText zone precision)
  | .timestamp rule precision => rule.Sound (readStampText zone precision)
  | .color | .id | .boolean _ | .checkbox => True

/-- The inputs on which a leaf faults, for each kind of leaf. -/
def Breaks (setting : Setting) : Leaf → Value → Prop
  | .string rule, v => rule.Breaks v
  | .url rule, v => rule.Breaks v
  | .email rule, v => rule.Breaks v
  | .number rule, v => rule.Breaks setting.locale v
  | .float rule, v => rule.Breaks setting.locale v
  | .int rule, v => rule.Breaks setting.locale v
  | .id, v => idRule.Breaks setting.locale v
  | .values members _, v =>
    (∀ member ∈ members, v.same member = false) ∧ ∃ n, v = .int n ∧ TooLong n
  | .date rule, v => rule.Breaks setting.zone v
  | .color, _ | .boolean _, _ | .checkbox, _ | .literal _, _ => False
  | .dateString _, _ | .timeString .., _ | .timestamp .., _ => False

/-- A sound leaf faults on the inputs that break it.  On all others it has a value or rejects the
input, in every context of text. -/
theorem faults_parse_iff (hleaf : leaf.Sound setting.zone) (hctx : ctx.Plain) :
    (leaf.parse setting v ctx).Faults ↔ leaf.Breaks setting v := by
  cases leaf with
  | string rule => rw [parse, faults_map, TextRule.faults_parse hleaf hctx, Breaks]
  | url rule => rw [parse, faults_map, UrlRule.faults_parse hleaf hctx, Breaks]
  | email rule => rw [parse, faults_map, EmailRule.faults_parse hleaf hctx, Breaks]
  | color => simp [parse, Breaks, not_faults_parseColor hctx]
  | number rule => rw [parse, faults_map, NumberRule.faults_parse hleaf hctx, Breaks]
  | float rule => rw [parse, faults_map, FloatRule.faults_parse hleaf hctx, Breaks]
  | int rule => rw [parse, faults_map, NumberRule.faults_parseInt hleaf hctx, Breaks]
  | id =>
    have hid : (ctx.overriding (.text "id")).Plain := hctx.overriding (.text "id")
    rw [parse, faults_map, parseId, NumberRule.faults_parseInt idRule_sound hid, Breaks]
  | boolean asked => simp [parse, Breaks, not_faults_parseBoolean hctx]
  | checkbox => simp [parse, Breaks, not_faults_parseCheckbox hctx]
  | literal value => simp [parse, Breaks, not_faults_parseLiteral hleaf hctx]
  | values members nonempty => rw [parse, faults_parseMember hleaf hctx, Breaks]
  | date rule => rw [parse, faults_map, DateRule.faults_parse hleaf hctx, Breaks]
  | dateString rule => simp [parse, Breaks, SpanRule.not_faults_parseDate hleaf hctx]
  | timeString rule precision => simp [parse, Breaks, SpanRule.not_faults_parseTime hleaf hctx]
  | timestamp rule precision => simp [parse, Breaks, SpanRule.not_faults_parseStamp hleaf hctx]

/-- A text has no room for the least integer of too many digits. -/
theorem faults_parse_string_tenPow : (Leaf.string {}).Sound .utc ∧ Context.root.Plain ∧
    ((Leaf.string {}).parse "en" (.int (10 ^ Numeric.maxDigits)) .root).Faults := by
  have hsound : (Leaf.string {}).Sound .utc := ⟨by simp, by simp, by simp⟩
  refine ⟨hsound, Context.plain_root, (faults_parse_iff hsound Context.plain_root).mpr ?_⟩
  exact .inl ⟨_, rfl, Numeric.tooLong_tenPow⟩

/-- Not every sound leaf is free of faults: a number is not read from 4301 digits. -/
theorem not_forall_not_faults : ¬ ∀ (leaf : Leaf) (setting : Setting) (v : Value) (ctx : Context),
    leaf.Sound setting.zone → ctx.Plain → ¬ (leaf.parse setting v ctx).Faults := by
  intro h
  have hsound : NumberRule.Sound {} := ⟨by simp, by simp, by simp⟩
  have hlong : Numeric.WritesTooLong (String.ofList (List.replicate 4301 '1')) := by
    refine Numeric.writesTooLong_ofList (fun d hd => ?_) ?_
    · rw [List.eq_of_mem_replicate hd]
      decide
    · rw [List.length_replicate]
      decide
  refine h (.number {}) "en" (.text (String.ofList (List.replicate 4301 '1'))) .root hsound
    Context.plain_root ?_
  rw [parse, faults_map, NumberRule.faults_parse hsound Context.plain_root]
  exact .inl ⟨rfl, _, rfl, hlong⟩

end Leaf

end Intake
