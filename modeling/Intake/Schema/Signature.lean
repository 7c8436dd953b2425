import Intake.Schema.Sample
import Intake.Text.Ascii
import Intake.Text.Word

/-!
# Type signatures

The type of a schema in a notation of its own: `Array<string>`, `null | number`, and objects with
one line for each field.

## Main definitions

* `Schema.signature` — the type of a schema.
* `Schema.typeText` — the type by which other schemas show a schema; one that has no signature is
  shown by the type of its samples.
-/

namespace Intake

/-! ## Words and field names -/

/-- Whether characters are all of a kind, one at least; a line end may follow them. -/
def isRun (kind : Char → Bool) (cs : List Char) : Bool :=
  !(cs.takeWhile kind).isEmpty && isFinished (cs.dropWhile kind)

/-- Whether a type is a single word, so that it needs no parentheses. -/
def isSimpleType (type : String) : Bool :=
  isRun Text.isWord type.toList

/-- Whether a character may begin the name of a field that is written without quotes. -/
def isFieldStart (c : Char) : Bool :=
  Text.isAsciiLetter c || c = '_' || c = '$'

/-- Whether the name of a field is written without quotes. -/
def isPlainField : List Char → Bool
  | [] => false
  | c :: cs => isFieldStart c && isFinished (cs.dropWhile fun d => Text.isWord d || d = '$')

/-- Whether the fields of an object are written in quotes, which they are if one of them has to
be.  Keys up to that one have to be text. -/
def needQuotes : List Value → Except Fault Bool
  | [] => .ok false
  | .text key :: keys => if isPlainField key.toList then needQuotes keys else .ok true
  | key :: _ => .error (.notText key.className)

/-- The name of a field as its object shows it.  Something can be replaced in a date too, but not
its quotes. -/
def fieldName (quoted : Bool) (key : Value) : Except Fault String :=
  match key with
  | .text s =>
    if quoted then
      .ok (String.ofList
        ('\'' :: s.toList.flatMap (fun c => if c = '\'' then ['\\', '\''] else [c]) ++ ['\'']))
    else .ok s
  | .moment _ | .day _ => .error (.notText key.className)
  | key => .error (.withoutText key.className)

/-- A text with its lines after the first moved in by two blanks. -/
def indentLines (text : String) : String :=
  String.ofList (text.toList.flatMap fun c => if c = '\n' then ['\n', ' ', ' '] else [c])

/-! ## Types by samples -/

/-- The random sample by which a schema shows its type: the one that is kept for that, or the one
for draws of zero at noon of the sample day. -/
def Schema.shownSample (s : Schema) : Except Fault Value :=
  match s.samples.bind (·.shown) with
  | some v => .ok v
  | none =>
    let zeros : Draws := ⟨fun _ => ⟨0, by decide⟩, 0⟩
    ((s.randomSample Leaf.noon).run.run zeros).1

/-- The type that a schema shows by its samples. -/
def Schema.sampleType (s : Schema) : Except Fault String :=
  match s.sampleValue with
  | .undefined => (·.typeName) <$> s.shownSample
  | v => .ok v.typeName

/-- The type that others show for a schema with the given signature.  An empty signature, and one
that fails for a key without characters, give way to the type of the samples; what is no schema
shows an unknown type. -/
def Schema.shownType (s : Schema) (signature : Except Fault String) : Except Fault String :=
  match s, signature with
  | .plain _, _ => .ok "unknown"
  | _, .ok type => if type.isEmpty then s.sampleType else .ok type
  | _, .error (.withoutText _) | _, .error (.noSchema _) => s.sampleType
  | _, .error fault => .error fault

namespace Schema

/-- A nullable type. -/
def nullableText (inner : String) : String :=
  if isSimpleType inner then "null | " ++ inner else "null | (" ++ inner ++ ")"

mutual

/-- The type of a schema. -/
def signature : Schema → Except Fault String
  | .leaf atom _ => atom.signature
  | .custom rule => .ok rule.type
  | .object fields _ => do
    let quoted ← needQuotes (fields.map (·.1))
    return "\x7b" ++ (← fieldLines quoted fields) ++ "\n\x7d"
  | .array item _ _ => do
    return "Array<" ++ (← item.shownType (signature item)) ++ ">"
  | .single item => item.shownType (signature item)
  | .nullable inner _ => do
    return nullableText (← inner.shownType (signature inner))
  | .optional inner => signature inner
  | .union candidates _ => do
    return joinWith " | " (← signatures candidates)
  | .dict key value _ => do
    let keyType ← key.shownType (signature key)
    return "Record<" ++ keyType ++ "," ++ (← value.shownType (signature value)) ++ ">"
  | .plain v => .error (.noSchema v.className)

/-- The lines for the fields of an object. -/
def fieldLines (quoted : Bool) : List (Value × Schema) → Except Fault String
  | [] => .ok ""
  | (key, schema) :: fields => do
    let name ← fieldName quoted key
    let mark := if schema.tag = .optional then "?" else ""
    let type ← schema.shownType (signature schema)
    return "\n  " ++ name ++ mark ++ ": " ++ indentLines type ++ (← fieldLines quoted fields)

/-- The types that some schemas are shown by. -/
def signatures : List Schema → Except Fault (List String)
  | [] => .ok []
  | schema :: schemas => do
    return (← schema.shownType (signature schema)) :: (← signatures schemas)

end

/-- The type by which other schemas show a schema. -/
def typeText (s : Schema) : Except Fault String :=
  s.shownType s.signature

end Schema

/-! ## Things that only look like schemas -/

/-- The type of something that may have a type, a sample value and a random sample, the last of
which counts only if it can be drawn. -/
def looseType (type sample random : Option Value) (drawable : Bool) : String :=
  match type, sample.getD .undefined with
  | some (.text s), .undefined => if s.isEmpty then byRandom else s
  | some (.text s), v => if s.isEmpty then v.typeName else s
  | _, .undefined => byRandom
  | _, v => v.typeName
where
  /-- The type of the random sample. -/
  byRandom : String :=
    match drawable, random with
    | true, some v => v.typeName
    | _, _ => "unknown"

end Intake
