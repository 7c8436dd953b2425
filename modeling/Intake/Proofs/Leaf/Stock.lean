import Intake.Proofs.Draws
import Intake.Proofs.Leaf.Canonical
import Intake.Proofs.Leaf.RandomMoment
import Intake.Proofs.Leaf.Sampled
import Intake.Proofs.Value.Mild

/-!
# The samples of leaves without options

A leaf without options takes in its own samples, whatever is drawn for them.  Apart from the values
that a leaf is told to take, these are numbers, short texts and dates that no other leaf has trouble
with.

## Main definitions

* `Leaf.Stock` — the leaves without options, and those for fixed values that are small.
* `Leaf.Calm` — the leaves whose samples no other leaf has trouble with.
* `Leaf.Takes` — a value is accepted in every context of text.

## Main statements

* `Leaf.takes_sampleValue` — the sample value of a leaf is accepted.
* `Leaf.yields_randomSample` — what random samples there are.
-/

namespace Intake

open Calendar (Moment Day TimeOfDay Precision writeDate writeTime writeStamp)
open Numeric (Number Binary64 WritesTooLarge)

variable {ctx : Context}

/-! ## Urls and mail addresses -/

theorem splitAfterOne?_singleton {separator c : Char} {cs rest : List Char} (hc : c ≠ '\n')
    (hcs : ∀ d ∈ cs, d ≠ '\n' ∧ separator ≠ d) :
    splitAfterOne? [separator] (c :: (cs ++ separator :: rest)) = some (c :: cs, rest) := by
  induction cs generalizing c with
  | nil => simp [splitAfterOne?, hc]
  | cons d cs ih =>
    obtain ⟨⟨hd, hne⟩, hcs⟩ := List.forall_mem_cons.mp hcs
    rw [splitAfterOne?, if_neg hc, List.cons_append, ih hd hcs]
    simp [List.isPrefixOf, hne]

theorem UrlRule.parse_bare {s : String} {parts : List Char × List Char} (hctx : ctx.Plain)
    (htrim : Text.trim s = s) (h : splitUrl? s.toList = some parts) :
    UrlRule.parse {} (.text s) ctx = .ok s := by
  have hne : Text.trim s ≠ "" := by
    rintro hempty
    rw [← htrim, hempty] at h
    cases h
  rw [← htrim] at h
  exact (parse_bare_eq_ok_iff hctx hne).mpr ⟨htrim.symm, parts, h, rfl⟩

theorem EmailRule.parse_bare {s : String} {domain : List Char} (hctx : ctx.Plain)
    (htrim : Text.trim s = s) (h : splitEmail? s.toList = some domain) :
    EmailRule.parse {} (.text s) ctx = .ok s := by
  have hne : Text.trim s ≠ "" := by
    rintro hempty
    rw [← htrim, hempty] at h
    cases h
  rw [← htrim] at h
  exact (parse_bare_eq_ok_iff hctx hne).mpr ⟨htrim.symm, domain, h, rfl⟩

theorem not_isBlank_of_mem_writeInt {n : Nat} {c : Char} (h : c ∈ (Text.writeInt n).toList) :
    Text.isBlank c = false := by
  rw [Numeric.toList_writeInt_natCast] at h
  exact Text.not_isBlank_of_isDigit (Text.isDigit_of_mem_digits h)

theorem length_writeInt_le {n : Nat} (h : n ≤ 100) : (Text.writeInt n).length ≤ 3 := by
  rw [← String.length_toList, Numeric.toList_writeInt_natCast]
  exact (Nat.length_toDigits_le_iff (by decide) (by decide)).mpr (Nat.lt_of_le_of_lt h (by decide))

/-- The page of a user is a url. -/
theorem parse_userUrl (hctx : ctx.Plain) (n : Nat) :
    UrlRule.parse {} (.text ("https://www.example.net/users/" ++ Text.writeInt n)) ctx =
      .ok ("https://www.example.net/users/" ++ Text.writeInt n) := by
  have hsplit : splitUrl? ("https://www.example.net/users/" ++ Text.writeInt n).toList =
      some ("https".toList, "www.example.net".toList) := by
    rw [String.toList_append]
    rfl
  refine UrlRule.parse_bare hctx (trim_of_forall fun c hc => ?_) hsplit
  rw [String.toList_append, List.mem_append] at hc
  rcases hc with hc | hc
  · exact Text.not_isBlank_of_all (by decide) hc
  · exact not_isBlank_of_mem_writeInt hc

/-- The address of a user is a mail address. -/
theorem parse_userEmail (hctx : ctx.Plain) (n : Nat) :
    EmailRule.parse {} (.text ("user-" ++ Text.writeInt n ++ "@example.net")) ctx =
      .ok ("user-" ++ Text.writeInt n ++ "@example.net") := by
  have hname : ∀ d ∈ "ser-".toList ++ Text.digits n, d ≠ '\n' ∧ '@' ≠ d := by
    intro d hd
    rcases List.mem_append.mp hd with hd | hd
    · have hplain : ("ser-".toList.all fun d => d ≠ '\n' ∧ '@' ≠ d) = true := by decide
      simpa using List.all_eq_true.mp hplain d hd
    · have := Text.isDigit_of_mem_digits hd
      constructor <;> rintro rfl <;> cases this
  have hparts : splitAfterOne? ['@'] ("user-" ++ Text.writeInt n ++ "@example.net").toList =
      some ('u' :: ("ser-".toList ++ Text.digits n), "example.net".toList) := by
    rw [← splitAfterOne?_singleton (by decide : 'u' ≠ '\n') hname, String.toList_append,
      String.toList_append, Numeric.toList_writeInt_natCast]
    rfl
  have hsplit : splitEmail? ("user-" ++ Text.writeInt n ++ "@example.net").toList =
      some "example.net".toList := by
    rw [splitEmail?, hparts]
    rfl
  refine EmailRule.parse_bare hctx (trim_of_forall fun c hc => ?_) hsplit
  simp only [String.toList_append, List.mem_append] at hc
  rcases hc with (hc | hc) | hc
  · exact Text.not_isBlank_of_all (by decide) hc
  · exact not_isBlank_of_mem_writeInt hc
  · exact Text.not_isBlank_of_all (by decide) hc

/-- Six digits to base sixteen are a colour. -/
theorem isColor_cons {cs : List Char} (hlength : cs.length = 6)
    (hcs : ∀ c ∈ cs, Text.isHexDigit c = true) : isColor ('#' :: cs) = true := by
  have htake : cs.take 6 = cs := List.take_of_length_le (Nat.le_of_eq hlength)
  have hdrop : cs.drop 6 = [] := List.drop_of_length_le (Nat.le_of_eq hlength)
  rw [isColor, htake, hdrop, hlength, List.all_eq_true.mpr hcs]
  rfl

/-! ## Lengths of dates and times -/

theorem length_writeDate (d : Day) : (writeDate d).length = 10 := by
  have hyear : d.year < 10 ^ 4 := Nat.lt_of_le_of_lt d.year_le (by decide)
  have hmonth : d.month < 10 ^ 2 := Nat.lt_of_le_of_lt d.month_le (by decide)
  have hday : d.day < 10 ^ 2 :=
    Nat.lt_of_le_of_lt (Nat.le_trans d.day_le (Calendar.monthLength_le _ _)) (by decide)
  rw [← String.length_toList, Calendar.toList_writeDate]
  simp [Text.length_paddedChars, hyear, hmonth, hday]

theorem length_writeTime_le (t : TimeOfDay) (precision : Precision) :
    (writeTime t precision).length ≤ 12 := by
  have hhour : t.hour < 10 ^ 2 := Nat.lt_trans t.hour_lt (by decide)
  have hminute : t.minute < 10 ^ 2 := Nat.lt_trans t.minute_lt (by decide)
  have hsecond : t.second < 10 ^ 2 := Nat.lt_trans t.second_lt (by decide)
  rw [← String.length_toList, writeTime, Calendar.toList_writeClock]
  cases precision <;>
    simp [Text.length_paddedChars, hhour, hminute, hsecond, t.millisecond_lt]

theorem length_writeStamp_le (m : Moment) (precision : Precision) :
    (writeStamp m precision).length ≤ 23 := by
  have := length_writeTime_le m.time precision
  rw [writeStamp, String.length_append, String.length_append, length_writeDate]
  have : " ".length = 1 := rfl
  omega

/-! ## Leaves without options -/

namespace Leaf

variable {leaf : Leaf} {setting : Setting} {floats : Prop}

/-- The values that a leaf is told to take. -/
def fixed : Leaf → List Value
  | .literal value => [value]
  | .values members _ => members
  | _ => []

/-- The leaves without options, and those for fixed values that are small; not-a-number is none of
these. -/
def Stock : Leaf → Prop
  | .string rule => rule = {}
  | .url rule => rule = {}
  | .email rule => rule = {}
  | .number rule | .int rule => rule = {}
  | .float rule => rule = {}
  | .date rule => rule = {}
  | .dateString rule | .timeString rule _ | .timestamp rule _ => rule = {}
  | .color | .id | .boolean _ => True
  | .literal value => value.kind ≠ .nan ∧ value.Small
  | .values members _ => ∀ member ∈ members, member.kind ≠ .nan ∧ member.Small
  | .checkbox => False

/-- The leaves whose samples no other leaf has trouble with: the fixed values can be written and
have named classes, and where there are `floats` no text in them writes too large an integer. -/
structure Calm (floats : Prop) (leaf : Leaf) : Prop where
  float : ∀ rule, leaf = .float rule → floats
  json : ∀ value ∈ leaf.fixed, ∃ text, value.json = .ok text
  named : ∀ value ∈ leaf.fixed, value.Named
  notTooLarge : floats → ∀ value ∈ leaf.fixed, ∀ s, Value.Offers (.text s) value →
    ¬ WritesTooLarge s

theorem calm_of_fixed_eq_nil (hfixed : leaf.fixed = [])
    (hfloat : ∀ rule, leaf = .float rule → floats) : leaf.Calm floats :=
  ⟨hfloat, by simp [hfixed], by simp [hfixed], by simp [hfixed]⟩

theorem calm_text {s : String} (h : s.length ≤ 3 * 100) :
    (Leaf.literal (.text s)).Calm floats where
  float := fun _ heq => by cases heq
  json := by simp [fixed, Value.json]
  named := by simpa [fixed] using (Value.mild_text h : Value.Mild True _).named
  notTooLarge := fun _ => by
    simpa [fixed] using fun t ht => ((Value.mild_text h : Value.Mild True _).texts t ht).2 trivial

/-- A value is accepted in every context of text. -/
def Takes (setting : Setting) (leaf : Leaf) (v : Value) : Prop :=
  ∀ ctx : Context, ctx.Plain → ∃ w, leaf.parse setting v ctx = .ok w

/-! ### Values that are taken -/

theorem takes_string (s : String) : (Leaf.string {}).Takes setting (.text s) := fun _ _ =>
  ⟨_, parse_string s⟩

theorem takes_number {x : Binary64} (hx : (Number.float x).isNaN = false) :
    (Leaf.number {}).Takes setting (.number (.float x)) := fun _ _ =>
  ⟨_, parse_number hx⟩

theorem takes_float {x : Binary64} (hx : (Number.float x).isNaN = false) :
    (Leaf.float {}).Takes setting (.number (.float x)) := fun _ _ =>
  ⟨_, parse_float hx⟩

theorem takes_id {n : Nat} (hn : 1 ≤ n) : Leaf.id.Takes setting (.int n) := fun ctx _ => by
  have hallows : idRule.Allows (.int n) := by
    refine ⟨?_, by simp [idRule]⟩
    rintro bound ⟨⟩
    exact ⟨.int 1, rfl, by rw [Number.lt_int]; exact decide_eq_false (by omega)⟩
  refine ⟨.int n, Outcome.map_eq_ok.mpr ⟨n, ?_, rfl⟩⟩
  refine NumberRule.parseInt_eq_ok_iff.mpr ⟨.int n, ?_, .inl rfl⟩
  exact NumberRule.parse_eq_ok_iff.mpr ⟨.int n, rfl, rfl, hallows⟩

theorem takes_boolean (b : Bool) : (Leaf.boolean (some b)).Takes setting (.bool b) := fun _ _ =>
  ⟨.bool b, Outcome.map_eq_ok.mpr ⟨b, if_pos rfl, rfl⟩⟩

theorem takes_literal {value : Value} (h : value.kind ≠ .nan) :
    (Leaf.literal value).Takes setting value := fun _ _ =>
  ⟨value, if_pos (Value.same_self h)⟩

theorem takes_values {members : List Value} {nonempty : members ≠ []} {v : Value}
    (hv : v ∈ members) (h : v.kind ≠ .nan) : (Leaf.values members nonempty).Takes setting v :=
  fun _ _ => exists_parse_values hv h

theorem takes_date (m : Moment) : (Leaf.date {}).Takes setting (.moment m) := fun _ hctx =>
  ⟨_, parse_date hctx rfl⟩

theorem takes_dateString (m : Moment) :
    (Leaf.dateString {}).Takes setting (.text (writeDate m.day)) :=
  fun _ hctx => ⟨_, Outcome.map_eq_ok.mpr ⟨_, parseDate_writeDate m hctx, rfl⟩⟩

theorem takes_timeString (m : Moment) (precision : Precision) :
    (Leaf.timeString {} precision).Takes setting (.text (writeTime m.time precision)) :=
  fun _ hctx => ⟨_, Outcome.map_eq_ok.mpr ⟨_, parseTime_writeTime m precision hctx, rfl⟩⟩

theorem takes_timestamp (m : Moment) (precision : Precision) :
    (Leaf.timestamp {} precision).Takes setting (.text (writeStamp m precision)) :=
  fun _ hctx => ⟨_, Outcome.map_eq_ok.mpr ⟨_, parseStamp_writeStamp m precision hctx, rfl⟩⟩

/-- The sample value of a leaf without options is accepted. -/
theorem takes_sampleValue (h : leaf.Stock) : leaf.Takes setting leaf.sampleValue := by
  cases leaf with
  | string rule | url rule | email rule | int rule =>
    obtain rfl := h
    exact fun ctx _ => ⟨_, rfl⟩
  | color => exact fun ctx _ => ⟨_, rfl⟩
  | number rule =>
    obtain rfl := h
    exact takes_number (Binary64.isNaN_ofRatio _ _ _)
  | float rule =>
    obtain rfl := h
    exact takes_float (Binary64.isNaN_ofRatio _ _ _)
  | id => exact takes_id (Nat.le_refl 1)
  | boolean asked =>
    cases asked with
    | none => exact fun ctx _ => ⟨_, parse_boolean _⟩
    | some b => exact takes_boolean b
  | literal value => exact takes_literal h.1
  | values members nonempty =>
    have hmem := List.head_mem nonempty
    exact takes_values hmem (h _ hmem).1
  | date rule =>
    obtain rfl := h
    exact takes_date _
  | dateString rule =>
    obtain rfl := h
    exact takes_dateString (.startOf sampleDay)
  | timeString rule precision =>
    obtain rfl := h
    exact takes_timeString ⟨sampleDay, sampleTime, none, false⟩ precision
  | timestamp rule precision =>
    obtain rfl := h
    exact takes_timestamp _ precision
  | checkbox => exact h.elim

/-! ### Random samples

There is one lemma for each leaf; those for dates need a calendar that goes on for long enough. -/

/-- A leaf takes in a value, and no calm leaf has trouble with it. -/
def Suits (setting : Setting) (leaf : Leaf) (v : Value) : Prop :=
  leaf.Takes setting v ∧ ∀ floats, leaf.Calm floats → v.Mild floats

theorem suits_fixed {value : Value} (hvalue : value ∈ leaf.fixed) (hsmall : value.Small)
    (htakes : leaf.Takes setting value) : leaf.Suits setting value :=
  ⟨htakes, fun _ hcalm => hsmall.mild (hcalm.named value hvalue)
    fun hf s hs => hcalm.notTooLarge hf value hvalue s hs⟩

theorem suits_text {s : String} (hs : s.length ≤ 3 * 100) (htakes : leaf.Takes setting (.text s)) :
    leaf.Suits setting (.text s) :=
  ⟨htakes, fun _ _ => Value.mild_text hs⟩

section Samples

variable {now : Moment}

theorem yields_string : (randomSample now (.string {})).Yields ((Leaf.string {}).Suits setting) :=
  Gen.yields_hexText.map fun s hs => suits_text (Nat.le_trans hs (by decide)) (takes_string s)

theorem yields_url : (randomSample now (.url {})).Yields ((Leaf.url {}).Suits setting) := by
  refine Gen.yields_smallId.bind fun n hn => Gen.yields_pure (suits_text ?_ fun ctx hctx =>
    ⟨_, Outcome.map_eq_ok.mpr ⟨_, parse_userUrl hctx n, rfl⟩⟩)
  have := length_writeInt_le hn.2
  have hstart : "https://www.example.net/users/".length = 30 := rfl
  rw [String.length_append]
  omega

theorem yields_email : (randomSample now (.email {})).Yields ((Leaf.email {}).Suits setting) := by
  refine Gen.yields_smallId.bind fun n hn => Gen.yields_pure (suits_text ?_ fun ctx hctx =>
    ⟨_, Outcome.map_eq_ok.mpr ⟨_, parse_userEmail hctx n, rfl⟩⟩)
  have := length_writeInt_le hn.2
  have hstart : "user-".length = 5 := rfl
  have hend : "@example.net".length = 12 := rfl
  rw [String.length_append, String.length_append]
  omega

theorem yields_color : (randomSample now .color).Yields (Leaf.color.Suits setting) := by
  refine (Gen.yields_mapM fun _ _ => Gen.yields_hexDigit).bind fun cs hcs => Gen.yields_pure ?_
  have hcolor := isColor_cons hcs.1 hcs.2
  refine suits_text ?_ fun ctx _ => ⟨.text (String.ofList ('#' :: cs)), ?_⟩
  · rw [String.length_ofList, List.length_cons, hcs.1]
    decide
  · refine Outcome.map_eq_ok.mpr ⟨_, ?_, rfl⟩
    simp [parseColor, hcolor]

theorem yields_number :
    (randomSample now (.number {})).Yields ((Leaf.number {}).Suits setting) := by
  have hten : (Binary64.ofRatio false 10 1).isFinite = true := Binary64.isFinite_ofRatio (by decide)
  exact (Gen.yields_delta hten).bind fun x hx => Gen.yields_pure
    ⟨takes_number hx, fun _ _ => Value.mild_float x⟩

theorem yields_float : (randomSample now (.float {})).Yields ((Leaf.float {}).Suits setting) :=
  Gen.yields_unit.bind fun x hx => Gen.yields_pure ⟨takes_float hx, fun _ _ => Value.mild_float x⟩

theorem yields_int : (randomSample now (.int {})).Yields ((Leaf.int {}).Suits setting) := by
  refine Gen.yields_smallId.bind fun n hn => Gen.yields_pure
    ⟨fun ctx _ => ⟨_, parse_int _⟩, fun _ _ => Value.mild_int ?_⟩
  omega

theorem yields_id : (randomSample now .id).Yields (Leaf.id.Suits setting) := by
  refine Gen.yields_smallId.bind fun n hn => Gen.yields_pure
    ⟨takes_id hn.1, fun _ _ => Value.mild_int ?_⟩
  omega

theorem yields_boolean (asked : Option Bool) :
    (randomSample now (.boolean asked)).Yields ((Leaf.boolean asked).Suits setting) := by
  cases asked with
  | none =>
    exact Gen.yields_coin.map fun b _ =>
      ⟨fun ctx _ => ⟨_, parse_boolean _⟩, fun _ _ => Value.mild_bool b⟩
  | some b => exact Gen.yields_pure ⟨takes_boolean b, fun _ _ => Value.mild_bool b⟩

theorem yields_literal {value : Value} (hnan : value.kind ≠ .nan) (hsmall : value.Small) :
    (randomSample now (.literal value)).Yields ((Leaf.literal value).Suits setting) :=
  Gen.yields_pure (suits_fixed List.mem_cons_self hsmall (takes_literal hnan))

theorem yields_values {members : List Value} {nonempty : members ≠ []}
    (h : ∀ member ∈ members, member.kind ≠ .nan ∧ member.Small) :
    (randomSample now (.values members nonempty)).Yields
      ((Leaf.values members nonempty).Suits setting) :=
  (Gen.yields_pick nonempty).imp fun v hv =>
    suits_fixed hv (h v hv).2 (takes_values hv (h v hv).1)

theorem yields_date (hnow : now.HasRoom) :
    (randomSample now (.date {})).Yields ((Leaf.date {}).Suits setting) :=
  (yields_randomMoment hnow).map fun m _ => ⟨takes_date m, fun _ _ => Value.mild_moment m⟩

theorem yields_dateString (hnow : now.HasRoom) :
    (randomSample now (.dateString {})).Yields ((Leaf.dateString {}).Suits setting) :=
  (yields_randomMoment hnow).bind fun m _ => Gen.yields_pure <| suits_text
    (Nat.le_trans (Nat.le_of_eq (length_writeDate m.day)) (by decide)) (takes_dateString m)

theorem yields_timeString (hnow : now.HasRoom) (precision : Precision) :
    (randomSample now (.timeString {} precision)).Yields
      ((Leaf.timeString {} precision).Suits setting) :=
  (yields_randomMoment hnow).bind fun m _ => Gen.yields_pure <| suits_text
    (Nat.le_trans (length_writeTime_le _ _) (by decide)) (takes_timeString m precision)

theorem yields_timestamp (hnow : now.HasRoom) (precision : Precision) :
    (randomSample now (.timestamp {} precision)).Yields
      ((Leaf.timestamp {} precision).Suits setting) :=
  (yields_randomMoment hnow).bind fun m _ => Gen.yields_pure <| suits_text
    (Nat.le_trans (length_writeStamp_le _ _) (by decide)) (takes_timestamp m precision)

/-- Whatever is drawn for a sample of a leaf without options suits the leaf. -/
theorem yields_randomSample (h : leaf.Stock) (hnow : now.HasRoom) :
    (leaf.randomSample now).Yields (leaf.Suits setting) := by
  cases leaf with
  | string rule => exact h ▸ yields_string
  | url rule => exact h ▸ yields_url
  | email rule => exact h ▸ yields_email
  | color => exact yields_color
  | number rule => exact h ▸ yields_number
  | float rule => exact h ▸ yields_float
  | int rule => exact h ▸ yields_int
  | id => exact yields_id
  | boolean asked => exact yields_boolean asked
  | literal value => exact yields_literal h.1 h.2
  | values members nonempty => exact yields_values h
  | date rule => exact h ▸ yields_date hnow
  | dateString rule => exact h ▸ yields_dateString hnow
  | timeString rule precision => exact h ▸ yields_timeString hnow precision
  | timestamp rule precision => exact h ▸ yields_timestamp hnow precision
  | checkbox => exact h.elim

end Samples

end Leaf

end Intake
