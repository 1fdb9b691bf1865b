import Colloquy.Dialogue.Composer
import Colloquy.Routing.Written

/-!
Finished forms and how they are delivered.
-/

namespace Colloquy

/-- The answers that were collected for a form, by the identifiers of its inputs. -/
structure Submission where
  session : String
  formId : String
  action : String
  fields : Dict String
deriving DecidableEq

structure Post where
  url : Url
  body : String
deriving DecidableEq

def Post.contentType : String := "application/x-www-form-urlencoded"

namespace Submission

def toJson (submission : Submission) : Json :=
  .object [("session", .text submission.session), ("form_id", .text submission.formId),
    ("action", .text submission.action), ("fields", submission.fields.toJson .text)]

/-- A form whose action is no address of the web is not delivered. -/
def post? (submission : Submission) : Option Post :=
  (Composer.address? submission.action).map (⟨·, Url.Form.encode submission.fields.entries⟩)

end Submission

end Colloquy
