import Colloquy.Dialogue.Menu
import Colloquy.Dialogue.World

/-!
Replies to free text: from the first template that counts, else from the composer, else the error
text.
-/

namespace Colloquy

def Reply.messages (reply : Reply) : List Message :=
  (reply.label.map Message.text).toList ++
    (reply.attachment.map fun attachment =>
      Message.attachment attachment.kind attachment.source).toList

/-- Whether a template has replies and its pattern matches. -/
def Template.answers (template : Template) (content : String) : Bool :=
  !template.replies.isEmpty && template.pattern.isMatch content

namespace Engine

variable {κ : Type}

/-- One of the replies of a template, picked at random. -/
def replyFrom (engine : Engine) (template : Template) (world : World κ) :
    List Message × World κ :=
  let (position, picker) := world.picker.pick template.replies.length
  let messages := match template.replies[position]? with
    | some reply => reply.messages
    | none => engine.script.errorMessages
  (messages, { world with picker })

def compose (engine : Engine) (template content : String) (world : World κ) :
    List Message × World κ :=
  let url := Composer.url template content
  let messages := match engine.composer url with
    | .ok body => if body = "" then engine.script.errorMessages else [.text body]
    | .error _ => engine.script.errorMessages
  (messages, world.note (.ask url))

def reply (engine : Engine) (content : String) (world : World κ) : List Message × World κ :=
  match engine.script.templates.find? (·.answers content) with
  | some template => engine.replyFrom template world
  | none =>
    match engine.script.config? Composer.configKey with
    | some template => engine.compose template content world
    | none => (engine.script.errorMessages, world)

end Engine

end Colloquy
