import Intake.Schema.Signature

/-!
# Parsing by a schema

A schema turns an input into a value or rejects it.  An object keeps the declared fields in the
order of their declaration, an array parses its items one by one, and a union takes the first
candidate that accepts.

## Main definitions

* `Schema.parse` — the value that an input stands for.
* `Schema.validate` — the same, with a rejection as an answer.
-/

namespace Intake

/-! ## Contexts of parts -/

namespace Context

/-- The context of the items of an array. -/
def item (ctx : Context) : Except Fault Context := do
  return { name := ctx.name
           typePrefix := ← joinPhrases (.text "array of") ctx.typePrefix
           reasonSuffix := ← joinPhrases ctx.reasonSuffix (.text "in array") }

/-- The context of a value that may also be null. -/
def nonNull (ctx : Context) : Except Fault Context := do
  return { ctx with typePrefix := ← joinPhrases (.text "nullable") ctx.typePrefix }

/-- The context of the candidates of a union. -/
def candidate (ctx : Context) : Context where
  name := ctx.name

/-- The context of the entries of a dictionary, on one side of them. -/
def entrySide (ctx : Context) (type : Value) (side : String) : Except Fault Context := do
  return { ctx.overriding type with
           reasonSuffix := ← joinPhrases ctx.reasonSuffix (.text side) }

end Context

/-! ## Arrays -/

/-- The items of an input that is an array, or may count as an array of itself. -/
def ArrayRule.items (rule : ArrayRule) (v : Value) (ctx : Context) : Outcome (List Value) := do
  let expected := ctx.expected "array"
  match v.items? with
  | some items =>
    checkLength ctx expected rule.minLength rule.maxLength items.length
    return items
  | none =>
    if rule.maybeSingle.isTruthy then
      checkLength ctx expected rule.minLength rule.maxLength 1
      return [v]
    else ctx.rejectKind expected v

/-- The rule of an array of one item. -/
def singleRule : ArrayRule where
  minLength := some (.int 1)
  maxLength := some (.int 1)

/-- The only item of an array. -/
def onlyItem (v : Value) (ctx : Context) : Outcome Value := do
  match ← singleRule.items v ctx with
  | [item] => return item
  | _ => ctx.rejectKind (ctx.expected "array") v

/-! ## Unions -/

/-- What a rejection says was found, if that is all it says.  A reason that is empty but for its
first word leaves what the suffix says, whatever that is. -/
def Rejection.got? (r : Rejection) : Option (Except Fault Value) :=
  let found := "got ".toList
  if found.isPrefixOf r.reason.toList then
    some (joinPhrases (.text (String.ofList (r.reason.toList.drop found.length))) r.reasonSuffix)
  else none

/-- Adds a value to those that are to be shown, unless it is there already. -/
def addFound (found : List Value) (v : Value) : Except Fault (List Value) :=
  if !v.isHashable then .error (.unhashable v.className)
  else .ok (if found.any (·.sameKey v) then found else found ++ [v])

/-- The text of what was found; there has to be some. -/
def foundText (v : Value) : Except Fault String :=
  match v with
  | .text s => .ok s
  | _ => .error .noReason

/-- The reason of a union: the messages of its candidates, then what they say was found, each of
them once. -/
def unionReason (errors : List Rejection) : Except Fault String := do
  let messages := (errors.filter (·.got?.isNone)).map (·.message)
  let reason := joinWith " and " (messages.eraseDups.map fun message => "(" ++ message ++ ")")
  let phrases := errors.filterMap (·.got?)
  let found ← phrases.foldlM (fun found phrase => do addFound found (← phrase)) []
  if found.isEmpty then return reason
  else
    let texts ← found.mapM foundText
    let before := if reason.isEmpty then "" else reason ++ ", "
    return before ++ "got " ++ joinWith " and " texts

/-- The rejection of an input by all candidates of a union, whose type is given. -/
def rejectUnion (ctx : Context) (type : Except Fault String) (errors : List Rejection) :
    Outcome Value := do
  let reason ← Outcome.ofFault (unionReason errors)
  let type ← Outcome.ofFault type
  ctx.reject (ctx.expected ("union type of (" ++ type ++ ")")) reason errors

/-! ## Dictionaries -/

/-- The entries that those of an input stand for; a key that two entries stand for keeps its first
place. -/
def parseEntries (parseKey parseValue : Value → Outcome Value) :
    List (Value × Value) → Entries Value → Outcome (Entries Value)
  | [], parsed => .ok parsed
  | (key, value) :: entries, parsed => do
    let k ← parseKey key
    let v ← parseValue value
    if k.isHashable then parseEntries parseKey parseValue entries (parsed.put k v)
    else .error (.faulted (.unhashable k.className))

/-! ## Schemas -/

/-- Whether a value counts as absent for an optional field. -/
def Value.isAbsent : Value → Bool
  | .null | .undefined => true
  | _ => false

/-- What an object does about a field: it is left out, its value is known, or its input is to be
parsed. -/
inductive Presence where
  | omitted
  | known (v : Value)
  | given (v : Value)
  | missing

/-- What an object does about a field with the given tag and, if it is there, the given input. -/
def Presence.of (tag : Tag) : Option Value → Presence
  | none =>
    match tag with
    | .optional => .omitted
    | .checkbox => .known (.bool false)
    | .none => .missing
  | some v => if v.isAbsent && tag = .optional then .omitted else .given v

namespace Schema

mutual

/-- The value that an input stands for. -/
def parse (setting : Setting) : Schema → Value → Context → Outcome Value
  | .leaf atom _, v, ctx => atom.parse setting v ctx
  | .custom rule, v, ctx => rule.parse v ctx
  | .object fields _, v, ctx =>
    match v with
    | .dict entries => .dict <$> parseFields setting fields entries ctx
    | _ => ctx.rejectKind (ctx.expected "object") v
  | .array item rule _, v, ctx => do
    let items ← rule.items v ctx
    let inner ← Outcome.ofFault ctx.item
    .list <$> items.mapM fun e => parse setting item e inner
  | .single item, v, ctx => do
    let ctx := ctx.overriding (ctx.expected "singletonArray")
    let e ← onlyItem v ctx
    parse setting item e (← Outcome.ofFault ctx.item)
  | .nullable inner _, v, ctx =>
    match v with
    | .null => .ok .null
    | _ => do
      Outcome.ofFault inner.require
      parse setting inner v (← Outcome.ofFault ctx.nonNull)
  | .optional inner, v, ctx => parse setting inner v ctx
  | .union candidates samples, v, ctx => do
    match ← parseFirst setting candidates v ctx.candidate with
    | .ok w => return w
    | .error errors => rejectUnion ctx (signature (.union candidates samples)) errors
  | .dict key value _, v, ctx =>
    let expected := ctx.expected "dict/record"
    match v with
    | .dict entries => do
      let keyContext ← Outcome.ofFault (ctx.entrySide expected "in key")
      let valueContext ← Outcome.ofFault (ctx.entrySide expected "in value")
      .dict <$> parseEntries (fun k => parse setting key k keyContext)
        (fun w => parse setting value w valueContext) entries []
    | _ => (ctx.overriding expected).rejectKind expected v
  | .plain v, _, _ => .error (.faulted (.noSchema v.className))

/-- The declared fields of an object, from the entries of an input. -/
def parseFields (setting : Setting) :
    List (Value × Schema) → List (Value × Value) → Context → Outcome (List (Value × Value))
  | [], _, _ => .ok []
  | (key, schema) :: fields, entries, ctx =>
    match Presence.of schema.tag (Entries.get? key entries) with
    | .omitted => parseFields setting fields entries ctx
    | .known w => do
      return (key, w) :: (← parseFields setting fields entries ctx)
    | .given v => do
      Outcome.ofFault schema.require
      let w ← parse setting schema v (← Outcome.ofFault (ctx.child key))
      return (key, w) :: (← parseFields setting fields entries ctx)
    | .missing => do
      let name ← Outcome.ofFault key.json
      ctx.reject (ctx.expected "object") ("missing " ++ name)

/-- The value of the first candidate that accepts, or the rejections of all.  Every candidate that
rejects has to have a type, by which it is noted. -/
def parseFirst (setting : Setting) :
    List Schema → Value → Context → Outcome (Except (List Rejection) Value)
  | [], _, _ => .ok (.error [])
  | schema :: schemas, v, ctx =>
    match parse setting schema v ctx with
    | .ok w => .ok (.ok w)
    | .error (.faulted fault) => .error (.faulted fault)
    | .error (.rejected r) => do
      let _ ← Outcome.ofFault schema.typeText
      match ← parseFirst setting schemas v ctx with
      | .ok w => return .ok w
      | .error errors => return .error (r :: errors)

end

/-- The value that an input stands for, or the rejection of the input. -/
def validate (setting : Setting) (s : Schema) (v : Value) : Except Fault (Except Rejection Value) :=
  match s.parse setting v .root with
  | .ok w => .ok (.ok w)
  | .error (.rejected r) => .ok (.error r)
  | .error (.faulted fault) => .error fault

end Schema

end Intake
