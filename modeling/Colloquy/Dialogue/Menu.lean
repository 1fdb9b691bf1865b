import Colloquy.Dialogue.Message
import Colloquy.Script.Basic

/-!
How the parts of a script are presented: menus, questions and the greeting.
-/

namespace Colloquy

namespace Link

/-- Where the button of a link leads; a route also tells where the button was and whether the
session starts over. -/
def action (link : Link) (flowId : String) : Action :=
  match link.target with
  | .external url => .webUrl url (if link.embed then some link.ratio else none)
  | .route token =>
    .postback ((((token.withParam Routing.Token.flowParam flowId).withParam
      Routing.Token.linkParam link.id).withParam
      Routing.Token.resetParam (if link.reset then "yes" else "no")).payload)

end Link

namespace Flow

def buttons (flow : Flow) : List Button :=
  flow.links.map fun link => ⟨link.text, link.action flow.id⟩

def present (flow : Flow) : List Message := [.buttons flow.title flow.buttons]

end Flow

namespace Input

/-- A button for each option; its payload names the input and the option's position. -/
def optionButtons (input : Input) : List Button :=
  input.options.mapIdx fun position choice =>
    ⟨choice.text, .postback (Routing.Token.ofOption input.scope input.path position).payload⟩

end Input

namespace Script

def descriptionKey : String := "description"

/-- What is said when there is nothing better to say. -/
def errorMessages (script : Script) : List Message := [.text script.errorText]

/-- The entry menu; without an entry flow, the `fallback`. -/
def presentMain (script : Script) (fallback : List Message := script.errorMessages) :
    List Message :=
  match script.mainFlow? with
  | some flow => flow.present
  | none => fallback

/-- The description, if there is one, and the entry menu. -/
def greeting (script : Script) (fallback : List Message := script.errorMessages) : List Message :=
  ((script.config? descriptionKey).map Message.text).toList ++ script.presentMain fallback

def mainMenu (script : Script) (fallback : List Button := []) : List Button :=
  match script.mainFlow? with
  | some flow => flow.buttons
  | none => fallback

/-- The question of an input.  An input of an unknown kind cannot be asked. -/
def ask (script : Script) (input : Input) : List Message :=
  match input.kind with
  | .text | .file => [.text input.title]
  | .options => [.buttons input.title input.optionButtons]
  | .other _ => script.errorMessages

end Script

end Colloquy
