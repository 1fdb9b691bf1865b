import Colloquy.Routing.Written
import Colloquy.Script.Basic

/-!
Scripts as JSON.
-/

namespace Colloquy

def Json.ofOption {α : Type} (value : α → Json) : Option α → Json
  | some a => value a
  | none => .null

def Link.toJson (link : Link) : Json :=
  .object [("id", .text link.id), ("text", .text link.text), ("href", .text link.href),
    ("target", link.target.toJson), ("reset", .boolean link.reset),
    ("embed", .boolean link.embed), ("ratio", .text link.ratio)]

def Flow.toJson (flow : Flow) : Json :=
  .object [("id", .text flow.id), ("title", .text flow.title),
    ("links", .list (flow.links.map Link.toJson))]

def InputKind.toJson : InputKind → Json
  | .other name => .object [("other", .text name)]
  | kind => .text kind.name

def Choice.toJson (choice : Choice) : Json :=
  .object [("key", .text choice.key), ("text", .text choice.text)]

def Condition.toJson (condition : Condition) : Json :=
  .object [("left", .text condition.left), ("op", .text condition.comparison.symbol),
    ("right", .text condition.right)]

def Input.toJson (input : Input) : Json :=
  .object [("namespace", .text input.scope), ("path", .text input.path), ("id", .text input.id),
    ("title", .text input.title), ("kind", input.kind.toJson),
    ("options", .list (input.options.map Choice.toJson)),
    ("condition_text", .text input.conditionText),
    ("condition", .ofOption Condition.toJson input.condition)]

def Form.toJson (form : Form) : Json :=
  .object [("id", .text form.id), ("title", .text form.title), ("submit", .text form.submit),
    ("action", .text form.action), ("method", .text form.method),
    ("inputs", .list (form.inputs.map Input.toJson))]

def ReplyAttachment.toJson (attachment : ReplyAttachment) : Json :=
  .object [("kind", .text attachment.kind), ("source", .text attachment.source)]

def Reply.toJson (reply : Reply) : Json :=
  .object [("label", .ofOption .text reply.label),
    ("attachment", .ofOption ReplyAttachment.toJson reply.attachment)]

def Template.toJson (template : Template) : Json :=
  .object [("pattern", .text template.pattern.source),
    ("replies", .list (template.replies.map Reply.toJson))]

def Script.toJson (script : Script) : Json :=
  .object [("id", .text script.id), ("version", .text script.version),
    ("configs", script.configs.toJson .text),
    ("flows", .list (script.flows.map Flow.toJson)),
    ("forms", .list (script.forms.map Form.toJson)),
    ("templates", .list (script.templates.map Template.toJson))]

end Colloquy
