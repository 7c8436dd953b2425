import Intake.Proofs.Leaf.Settled
import Intake.Proofs.Schema.Nodes
import Intake.Proofs.Schema.Parts

/-!
# Schemas that take in what they give out

A schema of settled leaves, put together by objects, arrays, optional and nullable values and
dictionaries, leaves its results alone: what has been parsed once may be parsed again.  Fields that
were left out stay away, a value that counted as an array of itself is one afterwards, and keys
that fell together are one key.

## Main definitions

* `Schema.Settles` — the nodes that leave their results alone if their parts do.

## Main statements

* `Schema.parse_idempotent` — parsing a result gives that result.
-/

namespace Intake

namespace Schema

variable {s : Schema} {setting : Setting} {v w : Value} {ctx : Context}

/-- The nodes that leave their results alone if their parts do.  An array of one item and a union
give out something of another kind than they take in, and a user may do so as well. -/
def Settles : Schema → Prop
  | .leaf atom _ => atom.Settles
  | .object fields _ => (∀ field ∈ fields, ∃ key, field.1 = .text key) ∧ Entries.Distinct fields
  | .array .. | .nullable .. | .optional _ | .dict .. => True
  | .custom _ | .single _ | .union .. | .plain _ => False

/-- The tag of a checkbox is that of a checkbox only. -/
theorem Settles.tag_ne_checkbox (h : s.Settles) : s.tag ≠ .checkbox := by
  intro htag
  cases s with
  | leaf atom samples => cases atom <;> first | exact h | cases htag
  | _ => cases htag

/-! ## Absent results -/

/-- An absent result is that of the same absent input. -/
theorem eq_of_isAbsent (hs : s.Every Settles) (h : s.parse setting v ctx = .ok w)
    (hw : w.isAbsent = true) : v = w := by
  induction hs generalizing v w ctx with
  | @node s here below ih =>
    cases s with
    | leaf atom samples => exact atom.eq_of_isAbsent h hw
    | object fields samples =>
      obtain ⟨entries, out, -, -, rfl⟩ := parse_object_eq_ok.mp h
      cases hw
    | array item rule samples =>
      obtain ⟨items, inner, out, -, -, -, rfl⟩ := parse_array_eq_ok.mp h
      cases hw
    | nullable inner samples =>
      rcases parse_nullable_eq_ok.mp h with ⟨rfl, rfl⟩ | ⟨-, -, ctx', -, h⟩
      · rfl
      · exact ih inner (by simp [parts]) h hw
    | optional inner => exact ih inner (by simp [parts]) h hw
    | dict key value samples =>
      obtain ⟨entries, keyContext, valueContext, out, -, -, -, -, rfl⟩ := parse_dict_eq_ok.mp h
      cases hw
    | custom rule | single item | union candidates samples | plain v => exact here.elim

/-! ## Parsing twice -/

/-- Fields that leave their results alone are parsed to the same object again: those that are there
are given, and those that were left out stay away. -/
theorem parseFields_settles {fields : List (Value × Schema)} {entries out : List (Value × Value)}
    (hctx : ctx.Plain) (hkeys : ∀ field ∈ fields, ∃ key, field.1 = .text key)
    (hdistinct : Entries.Distinct fields) (htags : ∀ field ∈ fields, field.2.tag ≠ .checkbox)
    (hfields : ∀ field ∈ fields, ∀ {v w : Value} {ctx : Context}, ctx.Plain →
      field.2.parse setting v ctx = .ok w →
        field.2.parse setting w ctx = .ok w ∧ (w.isAbsent = true → v = w))
    (h : parseFields setting fields entries ctx = .ok out) :
    parseFields setting fields out ctx = .ok out := by
  induction fields generalizing out with
  | nil =>
    cases h
    rfl
  | cons field fields ih =>
    obtain ⟨key, s⟩ := field
    obtain ⟨hnew, hlater⟩ := Entries.distinct_cons.mp hdistinct
    obtain ⟨name, rfl⟩ : ∃ name, key = .text name := hkeys (key, s) List.mem_cons_self
    have hkeys := fun field hfield => hkeys field (List.mem_cons_of_mem _ hfield)
    have htail : ∀ {out}, parseFields setting fields entries ctx = .ok out →
        parseFields setting fields out ctx = .ok out :=
      ih hkeys hlater (fun field hfield => htags field (List.mem_cons_of_mem _ hfield))
        fun field hfield => hfields field (List.mem_cons_of_mem _ hfield)
    rw [parseFields_cons_eq_ok]
    rcases parseFields_cons_eq_ok.mp h with ⟨homitted, h⟩ | ⟨w, rest, rfl, hrest, hw⟩
    · -- no later field has the key of this one
      have habsent : Entries.get? (.text name) out = none :=
        get?_eq_none_of_parseFields h fun field hfield => by
          rw [← Value.sameKey_comm (a := .text name) rfl]
          exact hnew field hfield
      rw [habsent]
      exact .inl ⟨by rw [Presence.tag_eq_of_omitted homitted]; rfl, htail h⟩
    · have hget : Entries.get? (.text name) ((.text name, w) :: rest) = some w := by
        simp [Entries.get?]
      have hagain : parseFields setting fields ((.text name, w) :: rest) ctx = .ok rest := by
        rw [parseFields_cons_entry hnew, htail hrest]
      rcases hw with hknown | ⟨v, inner, hgiven, hrequire, hinner, hv⟩
      · exact absurd (Presence.tag_eq_of_known hknown) (htags _ List.mem_cons_self)
      · obtain ⟨hself, habsent⟩ :=
          hfields (.text name, s) List.mem_cons_self (hctx.of_child hinner) hv
        refine .inr ⟨w, rest, rfl, hagain, .inr ⟨w, inner, ?_, hrequire, hinner, hself⟩⟩
        rw [hget]
        exact Presence.of_eq_given_of_given hgiven habsent

/-- A result of a parse is parsed to itself. -/
theorem parse_idempotent (hs : s.Every Settles) (hctx : ctx.Plain)
    (h : s.parse setting v ctx = .ok w) : s.parse setting w ctx = .ok w := by
  induction hs generalizing v w ctx with
  | @node s here below ih =>
    cases s with
    | leaf atom samples => exact atom.parse_settles here hctx h
    | object fields samples =>
      obtain ⟨entries, out, -, hout, rfl⟩ := parse_object_eq_ok.mp h
      have hbelow : ∀ field ∈ fields, field.2 ∈ (object fields samples).parts :=
        fun field => mem_parts_of_mem_fields
      refine parse_object_eq_ok.mpr ⟨out, out, rfl, ?_, rfl⟩
      exact parseFields_settles hctx here.1 here.2
        (fun field hfield => (below _ (hbelow field hfield)).here.tag_ne_checkbox)
        (fun field hfield {v w ctx} hctx h =>
          ⟨ih _ (hbelow field hfield) hctx h, eq_of_isAbsent (below _ (hbelow field hfield)) h⟩)
        hout
    | array item rule samples =>
      obtain ⟨items, inner, out, hitems, hinner, hout, rfl⟩ := parse_array_eq_ok.mp h
      obtain ⟨inner', hinner', hplain⟩ := hctx.item
      obtain rfl : inner' = inner := Except.ok.inj (hinner'.symm.trans hinner)
      have hlength := rule.fitsLength_of_items hitems
      rw [← Outcome.length_of_mapM_eq_ok hout] at hlength
      refine parse_array_eq_ok.mpr ⟨out, inner', out, rule.items_list hlength, hinner, ?_, rfl⟩
      exact Outcome.mapM_settles (fun v w => ih item (by simp [parts]) hplain) hout
    | nullable inner samples =>
      rcases parse_nullable_eq_ok.mp h with ⟨rfl, rfl⟩ | ⟨-, hrequire, ctx', hctx', h⟩
      · exact h
      · obtain ⟨ctx'', hctx'', hplain⟩ := hctx.nonNull
        obtain rfl : ctx'' = ctx' := Except.ok.inj (hctx''.symm.trans hctx')
        refine parse_nullable_eq_ok.mpr ?_
        by_cases hw : w = .null
        · exact .inl ⟨hw, hw⟩
        · exact .inr ⟨hw, hrequire, ctx'', hctx', ih inner (by simp [parts]) hplain h⟩
    | optional inner => exact ih inner (by simp [parts]) hctx h
    | dict key value samples =>
      obtain ⟨entries, keyContext, valueContext, out, -, hkeyContext, hvalueContext, hout, rfl⟩ :=
        parse_dict_eq_ok.mp h
      have hside : ∀ {side inner}, ctx.entrySide (ctx.expected "dict/record") side = .ok inner →
          inner.Plain := by
        intro side inner hinner
        obtain ⟨inner', hinner', hplain⟩ := hctx.entrySide (hctx.isPhrase_expected _) side
        exact Except.ok.inj (hinner'.symm.trans hinner) ▸ hplain
      refine parse_dict_eq_ok.mpr
        ⟨out, keyContext, valueContext, out, rfl, hkeyContext, hvalueContext, ?_, rfl⟩
      have hsettled :=
        parseEntries_forall
          (P := fun k => key.parse setting k keyContext = .ok k ∧ k.isHashable = true)
          (Q := fun w => value.parse setting w valueContext = .ok w)
          (fun hk hhash => ⟨ih key (by simp [parts]) (hside hkeyContext) hk, hhash⟩)
          (fun hv => ih value (by simp [parts]) (hside hvalueContext) hv) (by simp) hout
      exact parseEntries_of_forall hsettled (distinct_of_parseEntries Entries.distinct_nil hout)
    | custom rule | single item | union candidates samples | plain v => exact here.elim

/-- The form of a booking: fields that are trimmed, wrapped, left out and read in other scripts. -/
def bookingForm : Schema :=
  .object
    [(.text "name", .leaf (.string { nonEmpty := .bool true }) none),
     (.text "nights", .leaf (.int {}) none),
     (.text "room", .optional (.leaf (.values [.text "single", .text "double"] (by simp)) none)),
     (.text "arrival", .nullable (.leaf (.timestamp {} .minute) none) none),
     (.text "tags", .array (.leaf .color none) { maybeSingle := .bool true } none),
     (.text "extras", .dict (.leaf (.string {}) none) (.leaf (.boolean none) none) none)] none

/-- A booking as a form sends it, and as it is kept. -/
def bookingInput : Value :=
  .dict [(.text "name", .text " Ada "), (.text "nights", .text " 3"), (.text "room", .null),
    (.text "arrival", .text "2024-02-29T09:30"), (.text "tags", .text "#c0ffee"),
    (.text "extras", .dict [(.text "wifi", .text "on"), (.text " wifi", .text "false")])]

@[inherit_doc bookingInput]
def booking : Value :=
  .dict [(.text "name", .text "Ada"), (.text "nights", .int 3),
    (.text "arrival", .text "2024-02-29 09:30"), (.text "tags", .list [.text "#c0ffee"]),
    (.text "extras", .dict [(.text "wifi", .bool false)])]

theorem parse_idempotent_booking : bookingForm.parse "en" bookingInput .root = .ok booking ∧
    bookingForm.parse "en" booking .root = .ok booking := by
  have hform : bookingForm.Every Settles := by
    simp [bookingForm, Settles, Leaf.Settles, Entries.Distinct]
  have hparse : bookingForm.parse "en" bookingInput .root = .ok booking := by rfl
  exact ⟨hparse, parse_idempotent hform Context.plain_root hparse⟩

end Schema

end Intake
