import Colloquy.Dialogue.Conversation
import Colloquy.Text.Blank

/-!
Chats: conversations line by line.  Buttons are shown with numbers, and a line that is the number of
one of the buttons shown last presses it.
-/

namespace Colloquy

open Session (Keeper)

namespace Chat

def helpLine : String := "commands: :start :go <payload> :attach <url> :help :quit"

def prompt : String := "> "

inductive Line where
  | send (event : Event)
  | visit (url : String)
  | help
  | quit
  | unknown (command : String)
deriving DecidableEq, Repr

/-- What follows a word and a space at the front of a line. -/
private def afterWord? (word line : String) : Option String :=
  let front := (word ++ " ").toList
  if front.isPrefixOf line.toList then
    some (Text.trim (String.ofList (line.toList.drop front.length)))
  else none

def numbered? (buttons : List Button) (line : String) : Option Button :=
  match Text.naturalBelow? Text.positionBound line with
  | some (position + 1) => buttons[position]?
  | _ => none

/-- Reads a line without the blanks around it; `buttons` are those shown last. -/
def Line.parse (buttons : List Button) (raw : String) : Line :=
  let line := Text.trim raw
  if line = ":quit" then .quit
  else if line = ":help" then .help
  else if line = ":start" then .send .optIn
  else
    match afterWord? ":go" line, afterWord? ":attach" line with
    | some payload, _ => .send (.postback payload)
    | none, some url => .send (.message "" [url])
    | none, none =>
      if line.toList.head? = some ':' then .unknown line
      else
        match numbered? buttons line with
        | some ⟨_, .postback payload⟩ => .send (.postback payload)
        | some ⟨_, .webUrl url _⟩ => .visit url
        | none => .send (.message line [])

private theorem afterWord?_of_head (word : String) {line : String}
    (hword : word.toList.head? = some ':') (h : line.toList.head? ≠ some ':') :
    afterWord? word line = none := by
  rw [afterWord?]
  refine if_neg fun hbegin => h ?_
  obtain ⟨rest, hrest⟩ := List.isPrefixOf_iff_prefix.1 hbegin
  rw [← hrest, String.toList_append, List.append_assoc, List.head?_append, hword]
  rfl

def Line.press (button : Button) : Line :=
  match button.action with
  | .postback payload => .send (.postback payload)
  | .webUrl url _ => .visit url

/-- A line that is no command presses a button or is free text. -/
theorem Line.parse_of_plain {raw : String} (h : (Text.trim raw).toList.head? ≠ some ':')
    (buttons : List Button) :
    Line.parse buttons raw =
      ((numbered? buttons (Text.trim raw)).map Line.press).getD
        (.send (.message (Text.trim raw) [])) := by
  have hne : ∀ command : String, command.toList.head? = some ':' → Text.trim raw ≠ command := by
    intro command hcommand heq
    exact h (heq ▸ hcommand)
  simp only [Line.parse, if_neg (hne ":quit" rfl), if_neg (hne ":help" rfl),
    if_neg (hne ":start" rfl), if_neg h, afterWord?_of_head ":go" rfl h,
    afterWord?_of_head ":attach" rfl h]
  cases hnumbered : numbered? buttons (Text.trim raw) with
  | none => rfl
  | some button =>
    obtain ⟨title, action⟩ := button
    cases action <;> rfl

/-- The only message that a command sends has an attachment and no text. -/
theorem Line.parse_of_colon {raw : String} (h : (Text.trim raw).toList.head? = some ':')
    {buttons : List Button} {content : String} {attachments : List String}
    (hparse : Line.parse buttons raw = .send (.message content attachments)) :
    content = "" ∧ ∃ url, attachments = [url] := by
  simp only [Line.parse, if_pos h] at hparse
  split at hparse
  · cases hparse
  · split at hparse
    · cases hparse
    · split at hparse
      · cases hparse
      · split at hparse
        · cases hparse
        · next url _ _ =>
          cases hparse
          exact ⟨rfl, url, rfl⟩
        · cases hparse

/-- The lines that show a message; buttons are numbered from one. -/
def shown : Message → List String
  | .text content => [content]
  | .buttons title items =>
    title :: items.mapIdx fun position button =>
      "  [" ++ toString (position + 1) ++ "] " ++ button.title
  | .attachment kind url => ["[" ++ kind ++ "] " ++ url]

def output (lines : List String) : String := String.join (lines.map (· ++ "\n"))

def latestButtons? (messages : List Message) : Option (List Button) :=
  messages.reverse.findSome? fun
    | .buttons _ items => some items
    | _ => none

end Chat

/-- A chat: the conversation, what it works with, and the buttons shown last. -/
structure Chat (κ : Type) where
  conversation : Conversation
  world : World κ
  buttons : List Button := []

namespace Chat

variable {κ : Type}

def opening (chat : Chat κ) : String :=
  output ["botscript chat: " ++ chat.conversation.script.id, helpLine]

inductive Turn where
  | on
  | over
deriving DecidableEq, Repr

/-- What a line leads to: the output, and whether the chat goes on. -/
def hear [Keeper κ] (chat : Chat κ) (raw : String) : String × Turn × Chat κ :=
  match Line.parse chat.buttons raw with
  | .send event =>
    let (messages, world) := chat.conversation.handle event chat.world
    (output (messages.flatMap shown), .on,
      { chat with world, buttons := (latestButtons? messages).getD chat.buttons })
  | .visit url => (output ["open: " ++ url], .on, chat)
  | .help => (output [helpLine], .on, chat)
  | .quit => (output ["bye"], .over, chat)
  | .unknown command => (output ["? unknown command " ++ command], .on, chat)

inductive Ending where
  | closed
  /-- A line was no text. -/
  | garbled
deriving DecidableEq, Repr

/-- A chat over lines, of which some may be no text.  There is a prompt before each line, also
before the end of the lines. -/
def run [Keeper κ] (chat : Chat κ) : List (Option String) → String × Ending × Chat κ
  | [] => (prompt, .closed, chat)
  | none :: _ => (prompt, .garbled, chat)
  | some raw :: lines =>
    match chat.hear raw with
    | (said, .over, chat) => (prompt ++ said, .closed, chat)
    | (said, .on, chat) =>
      let (later, ending, chat) := chat.run lines
      (prompt ++ said ++ later, ending, chat)

end Chat

end Colloquy
