import Colloquy.Markup.Document
import Colloquy.Script.Basic

/-!
Scripts from markup.  What an author leaves out gets a default; unknown elements and attributes do
not matter.
-/

namespace Colloquy

open Markup (Element)

inductive CompileFault where
  | markup (fault : Markup.Fault)
  | root (name : String) (span : Span)
  | boolean (key element : String) (span : Span)
  | entryFlowMissing
  | pattern (source : String) (refusal : Pattern.Refusal) (span : Span)
deriving DecidableEq, Repr

namespace Script

def rootName : String := "html"

end Script

namespace CompileFault

def report : CompileFault → Report
  | .markup fault => fault.report
  | .root name span =>
    ⟨"XML_ROOT_INVALID",
      s!"Expected <{Script.rootName}> as root element, found <{name}>.", some span⟩
  | .boolean key element span =>
    ⟨"XML_ATTR_BOOL_INVALID",
      s!"Attribute \"{key}\" on <{element}> must be a boolean.", some span⟩
  | .entryFlowMissing =>
    ⟨"ENTRY_FLOW_MISSING",
      s!"Cannot find the entry flow (<nav id=\"{Script.entryFlowId}\"> ... </nav>).", none⟩
  | .pattern source refusal span =>
    ⟨"TEMPLATE_PATTERN_INVALID",
      s!"Invalid template pattern \"{source}\": {refusal.message source}", some span⟩

end CompileFault

/-- A text, or a default in place of the empty one. -/
def orDefault (raw default : String) : String := if raw = "" then default else raw

/-- An identifier, or one made of the position in place of the empty one; positions count from
one. -/
def orPosition (raw stem : String) (index : Nat) : String :=
  orDefault raw (stem ++ toString (index + 1))

def nonEmpty? (raw : String) : Option String := if raw = "" then none else some raw

namespace Script

/-- A truth value as an author may spell it. -/
def boolean? (raw : String) : Option Bool :=
  match Text.trim raw with
  | "" => some false
  | "1" | "t" | "T" | "true" | "TRUE" | "True" => some true
  | "0" | "f" | "F" | "false" | "FALSE" | "False" => some false
  | _ => none

def booleanAttribute (e : Element) (name : String) : Except CompileFault Bool :=
  match boolean? (e.attr name) with
  | some value => .ok value
  | none => .error (.boolean name e.name e.span)

def compileLink (e : Element) (index : Nat) : Except CompileFault Link := do
  let href := e.attr "href"
  let reset ← booleanAttribute e "reset"
  let embed ← booleanAttribute e "embed"
  return {
    id := orPosition (e.attr "id") "link" index
    text := e.textContent
    href
    target := .ofHref href
    reset
    embed
    ratio := orDefault (e.attr "ratio") "tall" }

def compileFlow (e : Element) (index : Nat) : Except CompileFault Flow := do
  let links ← (e.elementsNamed "a").zipIdx.mapM fun (link, index) => compileLink link index
  return {
    id := orPosition (e.attr "id") "nav" index
    title := orDefault (e.attr "title") "Please choose an action"
    links }

def compileInput (scope : String) (e : Element) (index : Nat) : Input :=
  let id := orPosition (e.attr "id") "input" index
  let conditionText := Text.stripBlanks (e.attr "if")
  { scope
    path := inputPath scope id
    id
    title := orDefault (e.attr "title") "please write the required data"
    kind := .ofName (e.attr "type")
    options := (e.elementsNamed "option").map fun option =>
      ⟨option.attr "value", option.textContent⟩
    conditionText
    condition := Condition.parse? conditionText }

def compileForm (e : Element) (index : Nat) : Form :=
  let id := orPosition (e.attr "id") "input" index
  { id
    title := orDefault (e.attr "title") "please follow the next steps"
    submit := orDefault (e.attr "submit") "Thank you"
    action := e.attr "action"
    method := orDefault (Text.lowercase (e.attr "method")) "post"
    inputs := (e.elementsNamed "input").zipIdx.map fun (input, index) =>
      compileInput id input index }

def compileReply (e : Element) : Reply :=
  { label := nonEmpty? (e.attr "label")
    attachment := do
      let kind ← nonEmpty? (e.attr "type")
      let source ← nonEmpty? (e.attr "src")
      return ⟨kind, source⟩ }

def compileTemplate (e : Element) (read : Pattern.Reader := Pattern.parse) :
    Except CompileFault Template :=
  let source := e.attr "match"
  match read source with
  | .ok pattern => .ok ⟨pattern, (e.elementsNamed "reply").map compileReply⟩
  | .error refusal => .error (.pattern source refusal e.span)

/-- The elements of a name in all bodies of a document. -/
def bodyElements (root : Element) (name : String) : List Element :=
  (root.elementsNamed "body").flatMap (·.elementsNamed name)

/-- The settings in all heads of a document.  There is always a text for errors. -/
def compileConfigs (root : Element) : Dict String :=
  let metas := (root.elementsNamed "head").flatMap (·.elementsNamed "meta")
  let configs := Dict.ofList (metas.map fun e => (e.attr "name", e.attr "content"))
  let text := orDefault ((configs.get? errorKey).getD "") defaultErrorText
  configs.insert errorKey text

/-- A script from the root element of its document.  Without an identifier in the document it gets
`fallbackId`.  Which texts are patterns is for `read` to tell. -/
def ofElement (root : Element) (fallbackId : String) (read : Pattern.Reader := Pattern.parse) :
    Except CompileFault Script := do
  if root.name ≠ rootName then throw (.root root.name root.span)
  let flows ← (bodyElements root "nav").zipIdx.mapM fun (e, index) => compileFlow e index
  if !flows.any (·.id = entryFlowId) then throw .entryFlowMissing
  let templates ← (bodyElements root "template").mapM fun e => compileTemplate e read
  return {
    id := orDefault (root.attr "id") fallbackId
    version := root.attr "version"
    configs := compileConfigs root
    flows
    forms := (bodyElements root "form").zipIdx.map fun (e, index) => compileForm e index
    templates }

/-- A script from its source.  Which texts are documents is for `parse` to tell, and which are
patterns for `read`. -/
def compile (source fallbackId : String) (parse : Markup.Reader := Element.parse)
    (read : Pattern.Reader := Pattern.parse) : Except CompileFault Script :=
  match parse source with
  | .ok root => ofElement root fallbackId read
  | .error fault => .error (.markup fault)

end Script

end Colloquy
