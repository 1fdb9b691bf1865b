/-!
What goes back and forth in a conversation: events come in, messages go out.
-/

namespace Colloquy

inductive Action where
  | postback (payload : String)
  | webUrl (url : String) (embedRatio : Option String)
deriving DecidableEq, Repr

structure Button where
  title : String
  action : Action
deriving DecidableEq, Repr

inductive Message where
  | text (content : String)
  | buttons (title : String) (buttons : List Button)
  | attachment (kind url : String)
deriving DecidableEq, Repr

inductive Event where
  | optIn
  | message (content : String) (attachments : List String)
  | postback (payload : String)
deriving DecidableEq, Repr

end Colloquy
