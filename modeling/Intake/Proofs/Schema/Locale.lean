import Intake.Schema.Parse
import Intake.Proofs.Schema.Parts

/-!
# The active locale

All that a parse takes from the active locale is the decimal mark of numbers that are written for
people, and only under rules that name no locale themselves.  Two locales with one mark are
therefore the same to every schema, and all locales are where no rule asks.

## Main definitions

* `NumberRule.ReadsAlike`, `Leaf.ReadsAlike` — rules that see no difference between two locales.
* `Leaf.NamesLocale` — leaves that read numbers by a locale of their own, if they read any.

## Main statements

* `Schema.parse_eq_of_readsAlike` — a tree of such leaves comes to the same under both.
* `Schema.parse_of_locales` — locales with the same decimal mark, and trees that name their own.
-/

namespace Intake

open Numeric (Number decimalSeparator)

/-! ## Rules for numbers -/

namespace NumberRule

variable {rule : NumberRule} {l₁ l₂ : String}

/-- A rule that reads numbers written for people by the same decimal mark under two locales. -/
def ReadsAlike (l₁ l₂ : String) (rule : NumberRule) : Prop :=
  rule.readable.isTruthy = true → rule.separator l₁ = rule.separator l₂

theorem readsAlike_of_separator_eq (h : decimalSeparator l₁ = decimalSeparator l₂) :
    rule.ReadsAlike l₁ l₂ := by
  intro _
  simp only [separator, h]

/-- A rule that names a locale never asks for the active one. -/
theorem readsAlike_of_locale (h : rule.readable.isTruthy = true →
    ∃ locale, rule.locale = some locale ∧ locale.isTruthy = true) : rule.ReadsAlike l₁ l₂ := by
  intro hreadable
  obtain ⟨locale, hlocale, htruthy⟩ := h hreadable
  simp only [separator, hlocale, htruthy, if_true]

theorem readText_eq (h : rule.ReadsAlike l₁ l₂) : rule.readText l₁ = rule.readText l₂ := by
  funext ctx expected s
  unfold readText
  split
  · rw [h ‹_›]
  · rfl

theorem parse_eq_of_readsAlike (h : rule.ReadsAlike l₁ l₂) : rule.parse l₁ = rule.parse l₂ := by
  have hread : rule.read l₁ = rule.read l₂ := by
    funext ctx expected v
    cases v <;> simp only [read, readText_eq h]
  funext v ctx
  simp only [NumberRule.parse, hread]

theorem parseInt_eq_of_readsAlike (h : rule.ReadsAlike l₁ l₂) :
    rule.parseInt l₁ = rule.parseInt l₂ := by
  funext v ctx
  simp only [parseInt, parse_eq_of_readsAlike h]

end NumberRule

/-! ## Leaves -/

namespace Leaf

variable {leaf : Leaf} {l₁ l₂ : String} {zone : Calendar.Zone}

/-- The rule by which a leaf takes in numbers, if it does. -/
def numberRule? : Leaf → Option NumberRule
  | .number rule | .int rule => some rule
  | .float rule => some rule.number
  | .id => some idRule
  | _ => none

/-- A leaf that reads numbers by the same decimal mark under two locales. -/
def ReadsAlike (l₁ l₂ : String) (leaf : Leaf) : Prop :=
  ∀ rule ∈ leaf.numberRule?, rule.ReadsAlike l₁ l₂

/-- A leaf that has a locale of its own if it reads numbers written for people. -/
def NamesLocale (leaf : Leaf) : Prop :=
  ∀ rule ∈ leaf.numberRule?, rule.readable.isTruthy = true →
    ∃ locale, rule.locale = some locale ∧ locale.isTruthy = true

theorem parse_eq_of_readsAlike (h : leaf.ReadsAlike l₁ l₂) :
    leaf.parse ⟨l₁, zone⟩ = leaf.parse ⟨l₂, zone⟩ := by
  funext v ctx
  cases leaf with
  | number rule => simp only [parse, NumberRule.parse_eq_of_readsAlike (h rule rfl)]
  | int rule => simp only [parse, NumberRule.parseInt_eq_of_readsAlike (h rule rfl)]
  | float rule =>
    simp only [parse, FloatRule.parse, NumberRule.parse_eq_of_readsAlike (h rule.number rfl)]
  | id => simp only [parse, parseId, NumberRule.parseInt_eq_of_readsAlike (h idRule rfl)]
  | _ => rfl

end Leaf

/-! ## Schemas -/

namespace Schema

variable {s : Schema} {l₁ l₂ : String} {zone : Calendar.Zone}

/-- A node whose leaf, if it is one, reads numbers by the same decimal mark under two locales. -/
def ReadsAlike (l₁ l₂ : String) : Schema → Prop
  | .leaf atom _ => atom.ReadsAlike l₁ l₂
  | _ => True

/-- A node whose leaf, if it is one, has a locale of its own to read numbers by. -/
def NamesLocale : Schema → Prop
  | .leaf atom _ => atom.NamesLocale
  | _ => True

theorem parseFields_eq {fields : List (Value × Schema)}
    (h : ∀ field ∈ fields, field.2.parse ⟨l₁, zone⟩ = field.2.parse ⟨l₂, zone⟩) :
    parseFields ⟨l₁, zone⟩ fields = parseFields ⟨l₂, zone⟩ fields := by
  funext entries ctx
  induction fields with
  | nil => rfl
  | cons field fields ih =>
    obtain ⟨key, s⟩ := field
    have hs : s.parse ⟨l₁, zone⟩ = s.parse ⟨l₂, zone⟩ := h (key, s) List.mem_cons_self
    simp only [parseFields, hs, ih fun field hfield => h field (List.mem_cons_of_mem _ hfield)]

theorem parseFirst_eq {candidates : List Schema}
    (h : ∀ candidate ∈ candidates, candidate.parse ⟨l₁, zone⟩ = candidate.parse ⟨l₂, zone⟩) :
    parseFirst ⟨l₁, zone⟩ candidates = parseFirst ⟨l₂, zone⟩ candidates := by
  funext v ctx
  induction candidates with
  | nil => rfl
  | cons s candidates ih =>
    have hs : s.parse ⟨l₁, zone⟩ = s.parse ⟨l₂, zone⟩ := h s List.mem_cons_self
    simp only [parseFirst, hs,
      ih fun candidate hcandidate => h candidate (List.mem_cons_of_mem _ hcandidate)]

/-- A tree whose leaves see no difference between two locales sees none itself. -/
theorem parse_eq_of_readsAlike (hs : s.Every (ReadsAlike l₁ l₂)) :
    s.parse ⟨l₁, zone⟩ = s.parse ⟨l₂, zone⟩ := by
  induction hs with
  | @node s here below ih =>
    funext v ctx
    cases s with
    | leaf atom samples => simp only [parse, Leaf.parse_eq_of_readsAlike here]
    | object fields samples =>
      have hfields := parseFields_eq fun field hfield => ih field.2 (List.mem_map_of_mem hfield)
      simp only [parse, hfields]
    | array item rule samples => simp only [parse, ih item (by simp [parts])]
    | single item => simp only [parse, ih item (by simp [parts])]
    | nullable inner samples => simp only [parse, ih inner (by simp [parts])]
    | optional inner => simp only [parse, ih inner (by simp [parts])]
    | union candidates samples =>
      have hcandidates :
          parseFirst ⟨l₁, zone⟩ candidates = parseFirst ⟨l₂, zone⟩ candidates := parseFirst_eq ih
      simp only [parse, hcandidates]
    | dict key value samples =>
      simp only [parse, ih key (by simp [parts]), ih value (by simp [parts])]
    | custom rule | plain v => rfl

/-- Whatever is parsed comes to the same under two locales with the same decimal mark; where each
rule that reads numbers written for people names a locale, it does under any two. -/
theorem parse_of_locales (s : Schema) (v : Value) (ctx : Context) (l₁ l₂ : String)
    (zone : Calendar.Zone) :
    (decimalSeparator l₁ = decimalSeparator l₂ →
      s.parse ⟨l₁, zone⟩ v ctx = s.parse ⟨l₂, zone⟩ v ctx) ∧
    (s.Every NamesLocale → s.parse ⟨l₁, zone⟩ v ctx = s.parse ⟨l₂, zone⟩ v ctx) := by
  refine ⟨fun hmark => ?_, fun hs => ?_⟩
  · have halike : ∀ s : Schema, s.ReadsAlike l₁ l₂ := by
      intro s
      cases s with
      | leaf atom samples => exact fun rule _ => NumberRule.readsAlike_of_separator_eq hmark
      | _ => exact trivial
    rw [parse_eq_of_readsAlike (every_of_forall halike s)]
  · have halike : ∀ s : Schema, s.NamesLocale → s.ReadsAlike l₁ l₂ := by
      intro s h
      cases s with
      | leaf atom samples => exact fun rule hrule => NumberRule.readsAlike_of_locale (h rule hrule)
      | _ => exact trivial
    rw [parse_eq_of_readsAlike (hs.imp halike)]

/-- A price that is written for people, in the active locale or in that of an invoice. -/
def priceForm (locale : Option Value) : Schema :=
  .object [(.text "price", .leaf (.number { readable := .bool true, locale }) none)] none

/-- A price with commas, which are decimal marks in German but not in English or Swiss German. -/
def priceInput : Value :=
  .dict [(.text "price", .text "1,234,567")]

@[inherit_doc priceInput]
def price : Value :=
  .dict [(.text "price", .int 1234567)]

theorem parse_of_locales_price :
    (priceForm none).parse "en" priceInput .root = .ok price ∧
    (priceForm none).parse "de_CH" priceInput .root = .ok price ∧
    ((priceForm none).parse "de" priceInput .root).isOk = false ∧
    (priceForm (some (.text "en"))).parse "de" priceInput .root = .ok price := by
  have henglish : ∀ locale ∈ [none, some (.text "en")],
      (priceForm locale).parse "en" priceInput .root = .ok price := by
    simp only [List.forall_mem_cons, List.not_mem_nil, false_imp_iff, implies_true, and_true]
    exact ⟨by rfl, by rfl⟩
  have hmark : Numeric.decimalSeparator "de_CH" = Numeric.decimalSeparator "en" := by decide
  have hnames : (priceForm (some (.text "en"))).Every NamesLocale := by
    simp [priceForm, NamesLocale, Leaf.NamesLocale, Leaf.numberRule?, Value.isTruthy]
  refine ⟨henglish none (by simp), ?_, by rfl, ?_⟩
  · exact ((parse_of_locales _ priceInput .root "de_CH" "en" .utc).1 hmark).trans
      (henglish none (by simp))
  · exact ((parse_of_locales _ priceInput .root "de" "en" .utc).2 hnames).trans
      (henglish _ (by simp))

end Schema

end Intake
