import Intake.Rule.Text
import Intake.Text.Ascii
import Intake.Value.Equality

/-!
# Rules for urls, mail addresses and colours

Texts of a fixed shape.  A url is a protocol, `://`, a domain and perhaps more; a mail address is
anything, `@` and a domain; a colour is `#` and six digits to base sixteen.

## Main definitions

* `splitUrl?`, `splitEmail?`, `isColor` — the shapes.
* `UrlRule`, `EmailRule` — what is asked of the parts.
* `UrlRule.parse`, `EmailRule.parse`, `parseColor` — the text that an input stands for.
-/

namespace Intake

/-! ## Shapes -/

/-- Splits a text where a separator first stands after one character at least, with no line end
before it. -/
def splitAfterOne? (separator : List Char) : List Char → Option (List Char × List Char)
  | [] => none
  | c :: cs =>
    if c = '\n' then none
    else if separator.isPrefixOf cs then some ([c], cs.drop separator.length)
    else (splitAfterOne? separator cs).map fun parts => (c :: parts.1, parts.2)

/-- Whether nothing is left of a text but perhaps its last line end. -/
def isFinished (cs : List Char) : Bool :=
  cs.isEmpty || cs = ['\n']

/-- The domain at the start of the rest of a url: some characters up to a slash or the end. -/
def readDomain? : List Char → Option (List Char)
  | [] => none
  | c :: cs =>
    let isInside := fun d : Char => d ≠ '/' && d ≠ '\n'
    let rest := cs.dropWhile isInside
    if c = '\n' then none
    else if rest.head? = some '/' || isFinished rest then some (c :: cs.takeWhile isInside)
    else none

/-- The protocol and the domain of a url. -/
def splitUrl? (cs : List Char) : Option (List Char × List Char) := do
  let (protocol, rest) ← splitAfterOne? "://".toList cs
  return (protocol, ← readDomain? rest)

/-- The domain of a mail address: what stands after the first `@`. -/
def splitEmail? (cs : List Char) : Option (List Char) := do
  let (_, rest) ← splitAfterOne? ['@'] cs
  let domain := rest.takeWhile (· ≠ '\n')
  if !domain.isEmpty && isFinished (rest.drop domain.length) then some domain else none

/-- Whether a text is a colour; a line end may follow it. -/
def isColor : List Char → Bool
  | '#' :: cs => (cs.take 6).length = 6 && (cs.take 6).all Text.isHexDigit && isFinished (cs.drop 6)
  | _ => false

/-! ## Rules -/

/-- What is asked of a url.  The parts need not be text, but only a text is equal to one. -/
structure UrlRule where
  text : TextRule := {}
  domain : Option Value := none
  protocol : Option Value := none
  protocols : Option Value := none

/-- What is asked of a mail address. -/
structure EmailRule where
  text : TextRule := {}
  domain : Option Value := none

/-- Whether some characters stand one after the other in a text. -/
def occursIn (part : List Char) : List Char → Bool
  | [] => part.isEmpty
  | c :: cs => part.isPrefixOf (c :: cs) || occursIn part cs

/-- The members that a value lists, which has to list some. -/
def Value.listed (v : Value) : Except Fault (List Value) :=
  match v.members? with
  | some members => .ok members
  | none => .error (.notSequence v.className)

/-- Whether a protocol is listed.  A single text lists all of its parts. -/
def listsProtocol (protocols : Value) (protocol : List Char) : Except Fault Bool :=
  match protocols with
  | .text s => .ok (occursIn protocol s.toList)
  | v => do
    return (← v.listed).any (·.looseEq (.text (String.ofList protocol)))

/-- The listed protocols in the words of a rejection. -/
def protocolsReason (protocols : Value) : Except Fault String := do
  return "protocol should be any of " ++ (← (Value.list (← protocols.listed)).json)

/-- Rejects a part of a link that is not as asked. -/
def checkPart (ctx : Context) (expected : Value) (part : String) (asked : Option Value)
    (found : List Char) : Outcome Unit :=
  checkGiven asked fun v =>
    ctx.rejectIf (!v.looseEq (.text (String.ofList found))) expected
      ((part ++ " should be " ++ ·) <$> v.json)

/-- Rejects a url whose protocol or domain is not as asked. -/
def UrlRule.checkParts (rule : UrlRule) (ctx : Context) (expected : Value)
    (protocol domain : List Char) : Outcome Unit := do
  checkGiven rule.protocols fun protocols => do
    let isListed ← Outcome.ofFault (listsProtocol protocols protocol)
    ctx.rejectIf (!isListed) expected (protocolsReason protocols)
  checkPart ctx expected "protocol" rule.protocol protocol
  checkPart ctx expected "domain" rule.domain domain

/-- The url that an input stands for; the empty text is one unless the rule asks for more. -/
def UrlRule.parse (rule : UrlRule) (v : Value) (ctx : Context) : Outcome String :=
  if !rule.text.nonEmpty.isTruthy && v.isEmptyText then .ok ""
  else do
    let expected := ctx.expected "url"
    let url ← rule.text.parse v (ctx.overriding expected)
    match splitUrl? url.toList with
    | none => ctx.reject expected "should contains protocol and domain/host"
    | some (protocol, domain) =>
      rule.checkParts ctx expected protocol domain
      return url

/-- The mail address that an input stands for; the empty text is one unless the rule asks for
more. -/
def EmailRule.parse (rule : EmailRule) (v : Value) (ctx : Context) : Outcome String :=
  if !rule.text.nonEmpty.isTruthy && v.isEmptyText then .ok ""
  else do
    let expected := ctx.expected "email"
    let email ← rule.text.parse v (ctx.overriding expected)
    match splitEmail? email.toList with
    | none => ctx.reject expected "should contains \"@\" and domain"
    | some domain =>
      checkPart ctx expected "domain" rule.domain domain
      return email

/-- The colour that an input stands for. -/
def parseColor (v : Value) (ctx : Context) : Outcome String :=
  let expected := ctx.expected "color"
  match v with
  | .text s =>
    if s.isEmpty then ctx.rejectKind expected v
    else if isColor s.toList then .ok s
    else ctx.reject expected "should be in \"#rrggbb\" hexadecimal format"
  | _ => ctx.rejectKind expected v

end Intake
