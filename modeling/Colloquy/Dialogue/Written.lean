import Colloquy.Dialogue.Message
import Colloquy.Json.Any
import Colloquy.Json.Record
import Colloquy.Script.Written

/-!
Events and messages as JSON.  Each is a record whose tag tells its kind.
-/

namespace Colloquy

def kindTag : String := "kind"

private def tagged (kind : String) (members : List (String × Json)) : Json :=
  .object ((kindTag, .text kind) :: members)

/-- The kind that a tag tells.  Inside a message the position among the kinds will do as well. -/
private def kindOf? (kinds : List String) (inside : Bool) : Json → Option String
  | .text name => some name
  | .natural position => if inside then kinds[position]? else none
  | _ => none

/-- A text, or none if it is null or missing. -/
private def optionalText? : Option Json → Option (Option String)
  | none => some none
  | some .null => some none
  | some (.text value) => some (some value)
  | _ => none

namespace Action

def toJson : Action → Json
  | .postback payload => tagged "postback" [("payload", .text payload)]
  | .webUrl url embedRatio =>
    tagged "webUrl" [("url", .text url), ("embedRatio", .ofOption .text embedRatio)]

def ofJson? (inside : Bool) (value : Json) : Option Action := do
  let (tag, record) ← Json.tagged? kindTag value
  match ← kindOf? ["postback", "webUrl"] inside tag with
  | "postback" =>
    match ← record.fields? ["payload"] with
    | [some (.text payload)] => some (.postback payload)
    | _ => none
  | "webUrl" =>
    match ← record.fields? ["url", "embedRatio"] with
    | [some (.text url), ratio] => (optionalText? ratio).map (.webUrl url)
    | _ => none
  | _ => none

def read? (source : String) : Option Action := do
  ofJson? false (← (Json.read (Json.readAny Json.depthLimit) source).toOption)

end Action

namespace Button

def toJson (button : Button) : Json :=
  .object [("title", .text button.title), ("action", button.action.toJson)]

def ofJson? (value : Json) : Option Button := do
  let record ← Json.Record.ofJson? value
  match ← record.fields? ["title", "action"] with
  | [some (.text title), some action] => (Action.ofJson? true action).map (⟨title, ·⟩)
  | _ => none

def read? (source : String) : Option Button := do
  let reader := Json.readRecord "struct Button"
    ⟨("title", Json.readText), ("action", Json.readAny (Json.depthLimit - 1))⟩
  let (title, action) ← (Json.read reader source).toOption
  (Action.ofJson? false action).map (⟨title, ·⟩)

end Button

namespace Message

def toJson : Message → Json
  | .text content => tagged "text" [("text", .text content)]
  | .buttons title items =>
    tagged "buttons" [("title", .text title), ("buttons", .list (items.map Button.toJson))]
  | .attachment kind url =>
    tagged "attachment" [("attachmentType", .text kind), ("url", .text url)]

def ofJson? (value : Json) : Option Message := do
  let (tag, record) ← Json.tagged? kindTag value
  match tag with
  | .text "text" =>
    match ← record.fields? ["text"] with
    | [some (.text content)] => some (.text content)
    | _ => none
  | .text "buttons" =>
    match ← record.fields? ["title", "buttons"] with
    | [some (.text title), some (.list items)] =>
      (items.mapM Button.ofJson?).map (.buttons title)
    | _ => none
  | .text "attachment" =>
    match ← record.fields? ["attachmentType", "url"] with
    | [some (.text kind), some (.text url)] => some (.attachment kind url)
    | _ => none
  | _ => none

def read? (source : String) : Option Message := do
  ofJson? (← (Json.read (Json.readAny Json.depthLimit) source).toOption)

end Message

namespace Event

def toJson : Event → Json
  | .optIn => tagged "optIn" []
  | .message content attachments =>
    tagged "message" [("text", .text content), ("attachments", .list (attachments.map .text))]
  | .postback payload => tagged "postback" [("payload", .text payload)]

def ofJson? (value : Json) : Option Event := do
  let (tag, record) ← Json.tagged? kindTag value
  match tag with
  | .text "optIn" =>
    match record with
    | .named _ => some .optIn
    | .ordered items => if items.isEmpty then some .optIn else none
  | .text "message" =>
    match ← record.fields? ["text", "attachments"] with
    | [some (.text content), some (.list items)] =>
      (items.mapM Json.text?).map (.message content)
    | _ => none
  | .text "postback" =>
    match ← record.fields? ["payload"] with
    | [some (.text payload)] => some (.postback payload)
    | _ => none
  | _ => none

def read? (source : String) : Option Event := do
  ofJson? (← (Json.read (Json.readAny Json.depthLimit) source).toOption)

end Event

end Colloquy
