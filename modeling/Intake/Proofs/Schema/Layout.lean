import Intake.Schema.Signature
import Intake.Proofs.Schema.Reliable

/-!
# Signatures laid out by depth

The signature of an object moves the lines of its fields in after they are written, each time that
it stands inside another one.  Here a signature is printed in one go, with the depth at which it
stands: a field of an object at some depth is printed one level deeper, and all other nodes print
their parts at their own depth.

## Main definitions

* `Schema.layout` — the type of a schema, printed at a depth.
* `Schema.Printable` — the nodes whose names and types stand on one line.
* `shift` — a text with its lines after the first moved in for a depth.

## Main statements

* `shift_indentLines` — lines that are moved in once more stand one level deeper.
* `Schema.Laid` — what a signature and its layouts have to do with each other at any depth.
* `Schema.signature_eq_layout` — a signature is the layout of its schema at depth zero.
-/

namespace Intake

open Outcome (bind_eq_ok)

/-! ## The printer -/

/-- The end of a line, with the blanks that the next one begins with at some depth. -/
def lineBreak (depth : Nat) : String :=
  String.ofList ('\n' :: List.replicate (2 * depth) ' ')

/-- Whether a type is one word. -/
def isSingleWord (type : String) : Bool :=
  !type.isEmpty && type.toList.all Text.isWord

/-- Whether a key is an identifier. -/
def isIdentifier (key : String) : Bool :=
  match key.toList with
  | [] => false
  | c :: cs => isFieldStart c && cs.all fun d => Text.isWord d || d = '$'

/-- A text in single quotes, with those inside escaped. -/
def singleQuoted (s : String) : String :=
  "'" ++ String.ofList (s.toList.flatMap fun c => if c = '\'' then ['\\', '\''] else [c]) ++ "'"

/-- The type of values that may be null. -/
def orNull (type : String) : String :=
  "null | " ++ if isSingleWord type then type else "(" ++ type ++ ")"

/-- The text of a key; keys are text wherever a type is printed. -/
def Value.keyText : Value → String
  | .text s => s
  | _ => ""

/-- The type of a leaf, if it can be written. -/
def Leaf.label (atom : Leaf) : String :=
  atom.signature.toOption.getD ""

namespace Schema

/-- A type as others show it: where there is none, the type of the samples stands in. -/
def shownAs (s : Schema) (type : String) : String :=
  if type.isEmpty then s.sampleType.toOption.getD "" else type

mutual

/-- The type of a schema, printed at a depth. -/
def layout : Schema → Nat → String
  | .leaf atom _, _ => atom.label
  | .custom rule, _ => rule.type
  | .object fields _, depth =>
    let quoted := fields.any fun field => !isIdentifier field.1.keyText
    "\x7b" ++ layoutFields quoted fields depth ++ lineBreak depth ++ "\x7d"
  | .array item _ _, depth => "Array<" ++ item.shownAs (layout item depth) ++ ">"
  | .single item, depth => item.shownAs (layout item depth)
  | .nullable inner _, depth => orNull (inner.shownAs (layout inner depth))
  | .optional inner, depth => layout inner depth
  | .union candidates _, depth => joinWith " | " (layouts candidates depth)
  | .dict key value _, depth =>
    "Record<" ++ key.shownAs (layout key depth) ++ "," ++ value.shownAs (layout value depth) ++ ">"
  | .plain _, _ => ""

/-- The lines for the fields of an object that stands at a depth. -/
def layoutFields (quoted : Bool) : List (Value × Schema) → Nat → String
  | [], _ => ""
  | (key, schema) :: fields, depth =>
    let name := if quoted then singleQuoted key.keyText else key.keyText
    let mark := if schema.tag = .optional then "?" else ""
    let type := schema.shownAs (layout schema (depth + 1))
    lineBreak (depth + 1) ++ name ++ mark ++ ": " ++ type ++ layoutFields quoted fields depth

/-- The types of some schemas, printed at a depth. -/
def layouts : List Schema → Nat → List String
  | [], _ => []
  | schema :: schemas, depth => schema.shownAs (layout schema depth) :: layouts schemas depth

end

end Schema

/-! ## Lines moved in -/

/-- A text with its lines after the first moved in for a depth. -/
def shift (depth : Nat) (text : String) : String :=
  String.ofList (text.toList.flatMap fun c =>
    if c = '\n' then '\n' :: List.replicate (2 * depth) ' ' else [c])

section Shift

variable {depth : Nat} {s t : String}

@[simp] theorem shift_append : shift depth (s ++ t) = shift depth s ++ shift depth t := by
  simp [shift]

@[simp] theorem shift_empty : shift depth "" = "" := rfl

/-- The line after a line end begins with the blanks of its depth. -/
theorem shift_newline : shift depth "\n" = lineBreak depth := by
  simp [shift, lineBreak]

/-- A single line is not moved. -/
theorem shift_of_notMem (h : '\n' ∉ t.toList) : shift depth t = t := by
  have hkeep : (t.toList.flatMap fun c =>
      if c = '\n' then '\n' :: List.replicate (2 * depth) ' ' else [c]) =
        t.toList.flatMap fun c => [c] := by
    refine List.flatMap_congr fun c hc => if_neg ?_
    rintro rfl
    exact h hc
  rw [shift, hkeep, List.flatMap_singleton', String.ofList_toList]

/-- Nothing is moved at depth zero. -/
theorem shift_zero : shift 0 t = t := by
  have hkeep : (t.toList.flatMap fun c =>
      if c = '\n' then '\n' :: List.replicate (2 * 0) ' ' else [c]) =
        t.toList.flatMap fun c => [c] :=
    List.flatMap_congr fun c _ => by split <;> simp_all
  rw [shift, hkeep, List.flatMap_singleton', String.ofList_toList]

/-- Lines that are moved in once more stand one level deeper. -/
theorem shift_indentLines : shift depth (indentLines t) = shift (depth + 1) t := by
  simp only [shift, indentLines, String.toList_ofList, List.flatMap_assoc]
  congr 1
  refine List.flatMap_congr fun c _ => ?_
  split
  · have hblanks : List.replicate (2 * depth) ' ' ++ [' ', ' '] =
        List.replicate (2 * (depth + 1)) ' ' := by
      rw [Nat.mul_succ, List.replicate_add]
      rfl
    simpa using hblanks
  · simp [*]

theorem shift_joinWith {separator : String} {texts : List String} (h : '\n' ∉ separator.toList) :
    shift depth (joinWith separator texts) = joinWith separator (texts.map (shift depth)) := by
  induction texts with
  | nil => rfl
  | cons text texts ih =>
    cases texts with
    | nil => simp [joinWith]
    | cons next texts =>
      simp only [joinWith, String.intercalate_cons_cons, List.map_cons, shift_append] at ih ⊢
      rw [ih, shift_of_notMem h]

@[simp] theorem shift_eq_empty : shift depth t = "" ↔ t = "" := by
  constructor
  · intro h
    have hchars := congrArg String.toList h
    rw [shift, String.toList_ofList, String.toList_empty, List.flatMap_eq_nil_iff] at hchars
    rw [← String.toList_eq_nil_iff, List.eq_nil_iff_forall_not_mem]
    intro c hc
    have := hchars c hc
    split at this <;> simp at this
  · intro h
    rw [h, shift_empty]

theorem mem_shift {c : Char} (h : c ∈ t.toList) : c ∈ (shift depth t).toList := by
  rw [shift, String.toList_ofList, List.mem_flatMap]
  refine ⟨c, h, ?_⟩
  split <;> simp_all

end Shift

/-! ## Words and keys on one line -/

/-- A text that ends where its last character of a kind does is of that kind throughout. -/
theorem isFinished_dropWhile {kind : Char → Bool} {cs : List Char} (h : '\n' ∉ cs) :
    isFinished (cs.dropWhile kind) = cs.all kind := by
  induction cs with
  | nil => rfl
  | cons c cs ih =>
    obtain ⟨hc, hcs⟩ := List.ne_and_not_mem_of_not_mem_cons h
    rw [List.dropWhile_cons, List.all_cons]
    split
    · simp [ih hcs, *]
    · have : c ≠ '\n' := hc.symm
      simp [isFinished, *]

/-- Without line ends, a type needs no parentheses if it is one word. -/
theorem isSimpleType_of_notMem {t : String} (h : '\n' ∉ t.toList) :
    isSimpleType t = isSingleWord t := by
  have hempty : t.isEmpty = t.toList.isEmpty := by
    rw [Bool.eq_iff_iff, String.isEmpty_iff, List.isEmpty_iff, String.toList_eq_nil_iff]
  rw [isSimpleType, isSingleWord, isRun, isFinished_dropWhile h, hempty]
  rcases t.toList with _ | ⟨c, cs⟩
  · rfl
  · by_cases hc : Text.isWord c <;> simp [hc]

theorem isPlainField_of_notMem {key : String} (h : '\n' ∉ key.toList) :
    isPlainField key.toList = isIdentifier key := by
  rw [isIdentifier]
  cases hkey : key.toList with
  | nil => rfl
  | cons c cs =>
    rw [hkey] at h
    simp only [isPlainField]
    rw [isFinished_dropWhile (List.not_mem_of_not_mem_cons h)]

/-- What is in a run is of its kind, but for a line end. -/
theorem eq_newline_of_isRun {kind : Char → Bool} {cs : List Char} {c : Char}
    (h : isRun kind cs = true) (hc : c ∈ cs) (hkind : kind c = false) : c = '\n' := by
  rw [isRun, Bool.and_eq_true, isFinished, Bool.or_eq_true, List.isEmpty_iff,
    decide_eq_true_eq] at h
  rw [← List.takeWhile_append_dropWhile (p := kind) (l := cs), List.mem_append] at hc
  rcases hc with hc | hc
  · simp [List.mem_takeWhile_imp hc] at hkind
  · rcases h.2 with h | h <;> simp_all

/-- What has a brace in it is no word. -/
theorem not_isWord_brace : Text.isWord '\x7b' = false := by
  decide +kernel

/-! ## Types in parentheses -/

/-- A type of several lines is that of an object, or has one in it. -/
def Braced (type : String) : Prop :=
  '\n' ∈ type.toList → '\x7b' ∈ type.toList

theorem braced_of_notMem {type : String} (h : '\n' ∉ type.toList) : Braced type :=
  fun hmem => absurd hmem h

theorem Braced.append {s t : String} (hs : Braced s) (ht : Braced t) : Braced (s ++ t) := by
  intro hmem
  rw [String.toList_append, List.mem_append] at hmem ⊢
  exact hmem.imp hs ht

theorem Braced.joinWith {separator : String} {types : List String} (hseparator : Braced separator)
    (h : ∀ type ∈ types, Braced type) : Braced (joinWith separator types) := by
  induction types with
  | nil => exact braced_of_notMem (by simp [Intake.joinWith])
  | cons type types ih =>
    obtain ⟨htype, hrest⟩ := List.forall_mem_cons.mp h
    cases types with
    | nil => simpa [Intake.joinWith] using htype
    | cons next types =>
      rw [Intake.joinWith, String.intercalate_cons_cons]
      exact (htype.append hseparator).append (ih hrest)

theorem isSimpleType_of_brace {t : String} (h : '\x7b' ∈ t.toList) : isSimpleType t = false := by
  by_contra hsimple
  have := eq_newline_of_isRun (by simpa [isSimpleType] using hsimple) h not_isWord_brace
  exact absurd this (by decide)

theorem isSingleWord_of_brace {t : String} (h : '\x7b' ∈ t.toList) : isSingleWord t = false := by
  rw [isSingleWord, Bool.and_eq_false_iff, List.all_eq_false]
  exact .inr ⟨_, h, by simp [not_isWord_brace]⟩

/-- A type that has braces wherever it has several lines is put in parentheses at every depth
alike. -/
theorem shift_nullableText {depth : Nat} {t : String} (h : Braced t) :
    shift depth (Schema.nullableText t) = orNull (shift depth t) := by
  have hsimple : isSimpleType t = isSingleWord (shift depth t) := by
    by_cases hline : '\n' ∈ t.toList
    · rw [isSimpleType_of_brace (h hline), isSingleWord_of_brace (mem_shift (h hline))]
    · rw [shift_of_notMem hline, isSimpleType_of_notMem hline]
  have hbar : shift depth "null | " = "null | " := shift_of_notMem (by decide)
  have hopen : shift depth "null | (" = "null | (" := shift_of_notMem (by decide)
  have hclose : shift depth ")" = ")" := shift_of_notMem (by decide)
  rw [Schema.nullableText, orNull, hsimple]
  split
  · rw [shift_append, hbar]
  · rw [shift_append, shift_append, hopen, hclose]
    simp only [String.append_assoc]
    rfl

/-! ## What is laid out -/

/-- A leaf has its type on one line. -/
theorem Leaf.newline_notMem_signature {atom : Leaf} {type : String}
    (h : atom.signature = .ok type) : '\n' ∉ type.toList := by
  cases atom with
  | literal value => exact Value.newline_notMem_json h
  | values members nonempty =>
    obtain ⟨texts, htexts, h⟩ := bind_eq_ok.mp h
    cases h
    apply Value.notMem_joinWith (by decide)
    intro text htext
    obtain ⟨member, -, hjson⟩ := Outcome.exists_of_mem_mapM htexts htext
    exact Value.newline_notMem_json hjson
  | _ =>
    cases h
    decide

/-- The type by which a rule of the user is shown. -/
def CustomRule.shownType (rule : CustomRule) : String :=
  if rule.type.isEmpty then rule.sample.typeName else rule.type

namespace Schema

/-- The nodes whose names and types stand on one line: leaves whose values can be written, rules of
the user that show a type without line ends, and objects whose keys are text without line ends. -/
def Printable : Schema → Prop
  | .leaf atom _ => ∃ type, atom.signature = .ok type
  | .custom rule => rule.shownType ≠ "" ∧ '\n' ∉ rule.shownType.toList
  | .object fields _ => ∀ field ∈ fields, ∃ key, field.1 = .text key ∧ '\n' ∉ key.toList
  | .union candidates _ => candidates ≠ []
  | .plain _ => False
  | _ => True

attribute [local simp] layout layoutFields layouts

/-- A schema has a signature that is its layout at every depth, but for the lines moved in.  Where
the signature is empty, the type of the samples is on one line. -/
structure Laid (s : Schema) (t : String) : Prop where
  signature : s.signature = .ok t
  layout : ∀ depth, s.layout depth = shift depth t
  braced : Braced t
  sampled : t = "" → ∃ label, s.sampleType = .ok label ∧ label ≠ "" ∧ '\n' ∉ label.toList

/-- What others show of a schema is its layout too. -/
structure ShownLaid (s : Schema) (t : String) : Prop where
  shown : s.shownType s.signature = .ok t
  layout : ∀ depth, s.shownAs (s.layout depth) = shift depth t
  braced : Braced t
  nonempty : t ≠ ""

theorem Laid.shown {s : Schema} {t : String} (h : s.Laid t) : ∃ type, s.ShownLaid type := by
  have hplain : ∀ v, s ≠ .plain v := by
    rintro v rfl
    simpa [Schema.signature] using h.signature
  have hshown : s.shownType s.signature = if t.isEmpty then s.sampleType else .ok t := by
    rw [h.signature]
    cases s with
    | plain v => exact absurd rfl (hplain v)
    | _ => rfl
  by_cases hempty : t = ""
  · obtain ⟨label, hlabel, hne, hline⟩ := h.sampled hempty
    refine ⟨label, ?_, fun depth => ?_, braced_of_notMem hline, hne⟩
    · rw [hshown, hempty]
      exact hlabel
    · rw [h.layout, hempty, shift_empty, shift_of_notMem hline, shownAs, hlabel]
      rfl
  · have hfull : t.isEmpty = false := by simpa using hempty
    refine ⟨t, ?_, fun depth => ?_, h.braced, hempty⟩
    · rw [hshown, hfull]
      rfl
    · have : (shift depth t).isEmpty = false := by
        rw [String.isEmpty_eq_false_iff, Ne, shift_eq_empty]
        exact hempty
      rw [h.layout, shownAs, this]
      rfl

/-! ### Leaves -/

theorem laid_leaf {atom : Leaf} {type : String} {samples : Option SampleOptions}
    (h : atom.signature = .ok type) : (leaf atom samples).Laid type := by
  have hline : '\n' ∉ type.toList := Leaf.newline_notMem_signature h
  refine ⟨h, ?_, braced_of_notMem hline, fun hempty => ?_⟩
  · intro depth
    rw [layout, Leaf.label, h, shift_of_notMem hline]
    rfl
  · exact absurd hempty (Leaf.signature_ne_empty h)

theorem sampleType_custom {rule : CustomRule} :
    (custom rule).sampleType = .ok rule.sample.typeName := by
  rw [sampleType, sampleValue]
  cases h : rule.sample with
  | undefined =>
    simp [shownSample, samples, randomSample, h]
    rfl
  | _ => rfl

theorem laid_custom {rule : CustomRule} (h : (custom rule).Printable) :
    (custom rule).Laid rule.type := by
  obtain ⟨hne, hline⟩ := h
  rw [CustomRule.shownType] at hne hline
  have htype : '\n' ∉ rule.type.toList := by
    by_cases hempty : rule.type = ""
    · simp [hempty]
    · simpa [hempty] using hline
  refine ⟨rfl, ?_, braced_of_notMem htype, ?_⟩
  · intro depth
    simp [shift_of_notMem htype]
  · intro hempty
    simp [hempty] at hne hline
    exact ⟨_, sampleType_custom, hne, hline⟩

/-! ### Objects -/

section Object

variable {fields : List (Value × Schema)} {quoted : Bool}

theorem needQuotes_eq {keys : List Value}
    (h : ∀ key ∈ keys, ∃ s, key = .text s ∧ '\n' ∉ s.toList) :
    needQuotes keys = .ok (keys.any fun key => !isIdentifier key.keyText) := by
  induction keys with
  | nil => rfl
  | cons key keys ih =>
    obtain ⟨⟨s, rfl, hs⟩, hrest⟩ := List.forall_mem_cons.mp h
    rw [needQuotes, isPlainField_of_notMem hs, ih hrest, List.any_cons, Value.keyText]
    cases isIdentifier s <;> rfl

theorem fieldName_text {s : String} :
    fieldName quoted (.text s) = .ok (if quoted then singleQuoted s else s) := by
  rw [fieldName]
  split
  · refine congrArg Except.ok (String.ext ?_)
    simp [*, singleQuoted]
  · simp [*]

theorem newline_notMem_name {s : String} (h : '\n' ∉ s.toList) :
    '\n' ∉ (if quoted then singleQuoted s else s).toList := by
  split
  · simp only [singleQuoted, String.toList_append, String.toList_ofList, List.mem_append,
      List.mem_flatMap]
    grind
  · exact h

/-- The lines of the fields are one level deeper than their object. -/
theorem exists_fieldLines_laid
    (hkeys : ∀ field ∈ fields, ∃ key, field.1 = .text key ∧ '\n' ∉ key.toList)
    (hfields : ∀ field ∈ fields, ∃ type, field.2.ShownLaid type) :
    ∃ lines, fieldLines quoted fields = .ok lines ∧
      ∀ depth, layoutFields quoted fields depth = shift depth lines := by
  induction fields with
  | nil => exact ⟨"", rfl, fun depth => rfl⟩
  | cons field fields ih =>
    obtain ⟨key, s⟩ := field
    obtain ⟨⟨name, hkey, hname⟩, hkeys⟩ := List.forall_mem_cons.mp hkeys
    obtain ⟨⟨type, htype⟩, hfields⟩ := List.forall_mem_cons.mp hfields
    obtain ⟨lines, hlines, hlayout⟩ := ih hkeys hfields
    obtain rfl : key = .text name := hkey
    refine ⟨_, by rw [fieldLines, fieldName_text, htype.shown, hlines]; rfl, ?_⟩
    intro depth
    have hbreak : lineBreak (depth + 1) = shift depth "\n  " := by
      rw [← shift_newline, ← shift_indentLines]
      rfl
    have hmark : '\n' ∉ (if s.tag = .optional then "?" else "").toList := by
      split <;> decide
    have hcolon : '\n' ∉ ": ".toList := by decide
    simp only [layoutFields, shift_append, Value.keyText, shift_indentLines, htype.layout, hlayout,
      hbreak, shift_of_notMem hmark, shift_of_notMem hcolon,
      shift_of_notMem (newline_notMem_name hname)]

end Object

theorem exists_laid_object {fields : List (Value × Schema)} {samples : Option SampleOptions}
    (hkeys : ∀ field ∈ fields, ∃ key, field.1 = .text key ∧ '\n' ∉ key.toList)
    (hfields : ∀ field ∈ fields, ∃ type, field.2.ShownLaid type) :
    ∃ type, (object fields samples).Laid type := by
  have hquotes : needQuotes (fields.map (·.1)) =
      .ok (fields.any fun field => !isIdentifier field.1.keyText) := by
    rw [needQuotes_eq (List.forall_mem_map.mpr hkeys), List.any_map]
    rfl
  obtain ⟨lines, hlines, hlayout⟩ := exists_fieldLines_laid hkeys hfields
  refine ⟨"\x7b" ++ lines ++ "\n\x7d", ?_, ?_, ?_, ?_⟩
  · rw [signature, hquotes, Outcome.ok_bind, hlines]
    rfl
  · intro depth
    have hopen : '\n' ∉ "\x7b".toList := by decide
    have hclose : '\n' ∉ "\x7d".toList := by decide
    have hend : "\n\x7d" = "\n" ++ "\x7d" := rfl
    rw [layout, hlayout, hend, ← shift_newline]
    simp only [shift_append, shift_of_notMem hopen, shift_of_notMem hclose, String.append_assoc]
  · intro _
    simp
  · simp

/-! ### Other nodes -/

section Nodes

variable {item inner key value : Schema} {samples : Option SampleOptions}
  {candidates : List Schema} {type : String}

theorem laid_array {rule : ArrayRule} (h : item.ShownLaid type) :
    (array item rule samples).Laid ("Array<" ++ type ++ ">") := by
  have hopen : '\n' ∉ "Array<".toList := by decide
  have hclose : '\n' ∉ ">".toList := by decide
  refine ⟨?_, ?_, ?_, ?_⟩
  · rw [signature, h.shown]
    rfl
  · intro depth
    rw [layout, h.layout, shift_append, shift_append, shift_of_notMem hopen, shift_of_notMem hclose]
  · exact ((braced_of_notMem hopen).append h.braced).append (braced_of_notMem hclose)
  · simp

theorem laid_single (h : item.ShownLaid type) : (single item).Laid type := by
  refine ⟨?_, ?_, h.braced, fun hempty => absurd hempty h.nonempty⟩
  · rw [signature, h.shown]
  · intro depth
    simp [h.layout]

theorem laid_nullable (h : inner.ShownLaid type) :
    (nullable inner samples).Laid (nullableText type) := by
  refine ⟨?_, ?_, ?_, ?_⟩
  · rw [signature, h.shown]
    rfl
  · intro depth
    simp [h.layout, shift_nullableText h.braced]
  · have hbar : Braced "null | " := braced_of_notMem (by decide)
    have hopen : Braced "null | (" := braced_of_notMem (by decide)
    have hclose : Braced ")" := braced_of_notMem (by decide)
    rw [nullableText]
    split
    · exact hbar.append h.braced
    · exact (hopen.append h.braced).append hclose
  · rw [nullableText]
    split <;> simp

/-- What is left out is shown as what is there. -/
theorem laid_optional (h : inner.Laid type) : (optional inner).Laid type :=
  ⟨h.signature, fun depth => by simp [h.layout], h.braced, h.sampled⟩

theorem laid_dict {keyType : String} (hkey : key.ShownLaid keyType)
    (hvalue : value.ShownLaid type) :
    (dict key value samples).Laid ("Record<" ++ keyType ++ "," ++ type ++ ">") := by
  have hopen : '\n' ∉ "Record<".toList := by decide
  have hcomma : '\n' ∉ ",".toList := by decide
  have hclose : '\n' ∉ ">".toList := by decide
  refine ⟨?_, ?_, ?_, ?_⟩
  · rw [signature, hkey.shown, hvalue.shown]
    rfl
  · intro depth
    rw [layout, hkey.layout, hvalue.layout]
    simp only [shift_append, shift_of_notMem hopen, shift_of_notMem hcomma, shift_of_notMem hclose]
  · exact ((((braced_of_notMem hopen).append hkey.braced).append (braced_of_notMem hcomma)).append
      hvalue.braced).append (braced_of_notMem hclose)
  · simp

theorem exists_signatures_laid (h : ∀ s ∈ candidates, ∃ type, s.ShownLaid type) :
    ∃ types, signatures candidates = .ok types ∧
      (∀ depth, layouts candidates depth = types.map (shift depth)) ∧
      types.length = candidates.length ∧
      ∀ type ∈ types, type ≠ "" ∧ Braced type := by
  induction candidates with
  | nil => exact ⟨[], rfl, fun depth => rfl, rfl, by simp⟩
  | cons s candidates ih =>
    obtain ⟨⟨type, htype⟩, hrest⟩ := List.forall_mem_cons.mp h
    obtain ⟨types, htypes, hlayouts, hlength, hall⟩ := ih hrest
    refine ⟨type :: types, ?_, ?_, by simp [hlength], ?_⟩
    · rw [signatures, htype.shown, htypes]
      rfl
    · intro depth
      simp [htype.layout, hlayouts]
    · exact List.forall_mem_cons.mpr ⟨⟨htype.nonempty, htype.braced⟩, hall⟩

theorem exists_laid_union (hne : candidates ≠ []) (h : ∀ s ∈ candidates, ∃ type, s.ShownLaid type) :
    ∃ type, (union candidates samples).Laid type := by
  obtain ⟨types, htypes, hlayouts, hlength, hall⟩ := exists_signatures_laid h
  have hbar : '\n' ∉ " | ".toList := by decide
  have htypes_ne : types ≠ [] := by
    intro hnil
    rw [hnil, List.length_nil, eq_comm, List.length_eq_zero_iff] at hlength
    exact hne hlength
  refine ⟨joinWith " | " types, ?_, ?_, ?_, ?_⟩
  · rw [signature, htypes]
    rfl
  · intro depth
    simp [hlayouts, shift_joinWith hbar]
  · exact (braced_of_notMem hbar).joinWith fun type htype => (hall type htype).2
  · intro hempty
    exact absurd hempty (joinWith_ne_empty htypes_ne fun type htype => (hall type htype).1)

end Nodes

/-! ## Trees as a whole -/

variable {s : Schema}

theorem exists_laid (h : s.Every Printable) : ∃ type, s.Laid type := by
  induction h with
  | @node s here below ih =>
    have hparts : ∀ part ∈ s.parts, ∃ type, part.ShownLaid type := by
      intro part hpart
      obtain ⟨type, htype⟩ := ih part hpart
      exact htype.shown
    cases s with
    | leaf atom samples =>
      obtain ⟨type, htype⟩ := here
      exact ⟨type, laid_leaf htype⟩
    | custom rule => exact ⟨_, laid_custom here⟩
    | object fields samples =>
      exact exists_laid_object here fun field hfield => hparts _ (mem_parts_of_mem_fields hfield)
    | array item rule samples =>
      obtain ⟨type, htype⟩ := hparts item (by simp [parts])
      exact ⟨_, laid_array htype⟩
    | single item =>
      obtain ⟨type, htype⟩ := hparts item (by simp [parts])
      exact ⟨_, laid_single htype⟩
    | nullable inner samples =>
      obtain ⟨type, htype⟩ := hparts inner (by simp [parts])
      exact ⟨_, laid_nullable htype⟩
    | optional inner =>
      obtain ⟨type, htype⟩ := ih inner (by simp [parts])
      exact ⟨_, laid_optional htype⟩
    | union candidates samples => exact exists_laid_union here hparts
    | dict key value samples =>
      obtain ⟨keyType, hkey⟩ := hparts key (by simp [parts])
      obtain ⟨type, hvalue⟩ := hparts value (by simp [parts])
      exact ⟨_, laid_dict hkey hvalue⟩
    | plain v => exact here.elim

/-- The signature of a schema is what is printed for it at depth zero, with the depth told to every
part. -/
theorem signature_eq_layout (h : s.Every Printable) : s.signature = .ok (s.layout 0) := by
  obtain ⟨type, htype⟩ := exists_laid h
  rw [htype.signature, htype.layout, shift_zero]

/-- A parcel with an address that has names in quotes, and with objects in arrays and unions. -/
def parcelForm : Schema :=
  let text := leaf (.string {}) none
  let address := object [(.text "street", text), (.text "recipient's name", optional text)] none
  let item := object [(.text "weight", leaf (.number {}) none), (.text "to", address)] none
  object
    [(.text "items", array item {} none),
     (.text "sender", optional (nullable (union [text, address] none) none)),
     (.text "tags", nullable (dict text (leaf (.literal (.text "a\nb")) none) none) none)] none

theorem signature_eq_layout_parcel :
    parcelForm.Every Printable ∧ parcelForm.signature = .ok (parcelForm.layout 0) := by
  have hparcel : parcelForm.Every Printable := by
    simp [parcelForm, Printable, Leaf.signature, Value.json]
  exact ⟨hparcel, signature_eq_layout hparcel⟩

example :
    (array (object [(.text "id", leaf .id none)] none) {} none).layout 1 =
      "Array<\x7b\n    id: number\n  \x7d>" := by
  rfl

end Schema

end Intake
