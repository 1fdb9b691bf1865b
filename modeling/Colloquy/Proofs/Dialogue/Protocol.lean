import Colloquy.Command.Run
import Colloquy.Proofs.Json.Compact
import Colloquy.Proofs.Session.Saved
import Colloquy.Span.Written

/-!
What goes back and forth, line by line: everything is written in one line of JSON and read back as
it was.
-/

namespace Colloquy

open Json (Fits Printable Reads Style)

/-- The compact JSON of a value stands in one line, and the value is read from it. -/
structure Framed {α : Type} (toJson : α → Json) (read? : String → Option α) (value : α) :
    Prop where
  oneLine : Printable (toJson value).compact.toList
  readBack : read? (toJson value).compact = some value

def readWith? {α : Type} (reader : Json.Reader α) (source : String) : Option α :=
  (Json.read reader source).toOption

section

variable {α : Type} {toJson : α → Json} {read? : String → Option α} {value : α} {depth : Nat}

theorem printable_compact {json : Json} (h : Fits depth json) : Printable json.compact.toList := by
  simpa [Json.compact] using h.printable

/-- Values that are first read as any JSON. -/
theorem framed_of_ofJson? {ofJson? : Json → Option α} (hfits : Fits Json.depthLimit (toJson value))
    (hvalue : ofJson? (toJson value) = some value)
    (hread : ∀ source, read? source =
      (Json.read (Json.readAny Json.depthLimit) source).toOption.bind ofJson?) :
    Framed toJson read? value := by
  have hjson : Json.read (Json.readAny Json.depthLimit) (toJson value).compact =
      .ok (toJson value) := Json.read_of_readsEnded hfits.readsEnded
  refine ⟨printable_compact hfits, ?_⟩
  rw [hread, hjson]
  exact hvalue

/-- Values that are read as records. -/
theorem framed_of_reads {reader : Json.Reader α} (hfits : Fits depth (toJson value))
    (h : Reads reader (toJson value).compactChars value) :
    Framed toJson (readWith? reader) value := by
  have hjson : Json.read reader (toJson value).compact = .ok value :=
    Json.read_of_readsEnded h.ended
  exact ⟨printable_compact hfits, congrArg Except.toOption hjson⟩

end

theorem fits_texts (depth : Nat) (members : List (String × String)) :
    Fits (depth + 2) (.object (members.map fun (key, value) => (key, .text value))) := by
  induction members with
  | nil => exact .nil
  | cons member members ih => exact .cons (.text _) ih

theorem mapM_map_eq_some {α β : Type} {f : β → Option α} {g : α → β} (h : ∀ a, f (g a) = some a)
    (items : List α) : (items.map g).mapM f = some items := by
  induction items with
  | nil => rfl
  | cons item items ih => simp [List.mapM_cons, h, ih]

/-!
Messages and their buttons.
-/

theorem Action.fits_toJson (action : Action) (depth : Nat) :
    Fits (depth + 2) action.toJson := by
  cases action with
  | postback payload => exact fits_texts depth [(kindTag, "postback"), ("payload", payload)]
  | webUrl url ratio =>
      have hratio : Fits (depth + 1) (.ofOption .text ratio) := by
        cases ratio with
        | none => exact .null
        | some ratio => exact .text ratio
      exact .cons (.text _) (.cons (.text url) (.cons hratio .nil))

theorem Action.ofJson?_toJson (action : Action) (inside : Bool) :
    ofJson? inside action.toJson = some action := by
  cases action with
  | postback payload => rfl
  | webUrl url ratio => cases ratio <;> rfl

theorem Action.framed (action : Action) : Framed toJson read? action :=
  framed_of_ofJson? (action.fits_toJson 126) (action.ofJson?_toJson false) fun _ => rfl

theorem Button.fits_toJson (button : Button) (depth : Nat) :
    Fits (depth + 3) button.toJson :=
  .cons (.text button.title) (.cons (button.action.fits_toJson depth) .nil)

theorem Button.ofJson?_toJson (button : Button) : ofJson? button.toJson = some button := by
  have haction := button.action.ofJson?_toJson true
  change (Action.ofJson? true button.action.toJson).map (⟨button.title, ·⟩) = some button
  rw [haction]
  rfl

theorem Button.framed (button : Button) : Framed toJson read? button where
  oneLine := printable_compact (button.fits_toJson 0)
  readBack := by
    have haction : Fits (Json.depthLimit - 1) button.action.toJson := button.action.fits_toJson 125
    have hrecord := Json.reads_record "struct Button"
      ⟨("title", Json.readText), ("action", Json.readAny (Json.depthLimit - 1))⟩ (by decide)
      (Style.compact.reads_text 1 button.title).ended haction.readsEnded
    have hread : Json.read _ button.toJson.compact = .ok (button.title, button.action.toJson) :=
      Json.read_of_readsEnded hrecord.ended
    unfold read?
    simp only [hread, Except.toOption, Option.bind_eq_bind, Option.bind_some]
    rw [button.action.ofJson?_toJson false]
    rfl

theorem Message.fits_toJson (message : Message) (depth : Nat) :
    Fits (depth + 5) message.toJson := by
  cases message with
  | text content => exact fits_texts _ [(kindTag, "text"), ("text", content)]
  | buttons title items =>
      have hitems : Fits (depth + 4) (.list (items.map Button.toJson)) := by
        refine .list fun item hitem => ?_
        obtain ⟨button, _, rfl⟩ := List.mem_map.mp hitem
        exact button.fits_toJson depth
      exact .cons (.text _) (.cons (.text title) (.cons hitems .nil))
  | attachment kind url =>
      exact fits_texts _ [(kindTag, "attachment"), ("attachmentType", kind), ("url", url)]

theorem Message.ofJson?_toJson (message : Message) : ofJson? message.toJson = some message := by
  cases message with
  | text content => rfl
  | buttons title items =>
      have hitems := mapM_map_eq_some Button.ofJson?_toJson items
      change ((items.map Button.toJson).mapM Button.ofJson?).map (Message.buttons title) = _
      rw [hitems]
      rfl
  | attachment kind url => rfl

theorem Message.framed (message : Message) : Framed toJson read? message :=
  framed_of_ofJson? (message.fits_toJson 123) message.ofJson?_toJson fun _ => rfl

/-!
Events.
-/

theorem Event.fits_toJson (event : Event) (depth : Nat) : Fits (depth + 3) event.toJson := by
  cases event with
  | optIn => exact fits_texts _ [(kindTag, "optIn")]
  | message content attachments =>
      have hurls : Fits (depth + 2) (.list (attachments.map .text)) := by
        refine .list fun item hitem => ?_
        obtain ⟨url, _, rfl⟩ := List.mem_map.mp hitem
        exact .text url
      exact .cons (.text _) (.cons (.text content) (.cons hurls .nil))
  | postback payload => exact fits_texts _ [(kindTag, "postback"), ("payload", payload)]

theorem Event.ofJson?_toJson (event : Event) : ofJson? event.toJson = some event := by
  cases event with
  | optIn => rfl
  | message content attachments =>
      have hurls := mapM_map_eq_some (f := Json.text?) (g := Json.text) (fun _ => rfl) attachments
      change ((attachments.map Json.text).mapM Json.text?).map (Event.message content) = _
      rw [hurls]
      rfl
  | postback payload => rfl

theorem Event.framed (event : Event) : Framed toJson read? event :=
  framed_of_ofJson? (event.fits_toJson 125) event.ofJson?_toJson fun _ => rfl

/-!
What is stored, and places in a source text.
-/

theorem fits_dict {α : Type} {toJson : α → Json} {depth : Nat}
    (h : ∀ value, Fits (depth + 1) (toJson value)) (d : Dict α) :
    Fits (depth + 2) (d.toJson toJson) := by
  refine .object fun member hmember => ?_
  obtain ⟨_, _, rfl⟩ := List.mem_map.mp hmember
  exact h _

theorem Session.Snapshot.framed (snapshot : Session.Snapshot) :
    Framed toJson (readWith? reader) snapshot := by
  have htexts : ∀ texts : Dict String, Fits 2 (texts.toJson .text) := fits_dict .text
  have hfits : Fits 4 snapshot.toJson :=
    .cons (fits_dict .text snapshot.values) (.cons (fits_dict htexts snapshot.hashes) .nil)
  exact framed_of_reads hfits (snapshot.reads_reader .compact 0)

/-- The numbers fit into 64 bits. -/
structure Location.InWords (place : Location) : Prop where
  line : place.line < Json.wordBound
  column : place.column < Json.wordBound

structure Span.InWords (span : Span) : Prop where
  start : span.start.InWords
  stop : span.stop.InWords

namespace Location

variable {place : Location}

theorem InWords.fits_toJson (h : place.InWords) (depth : Nat) : Fits (depth + 2) place.toJson :=
  .cons (.natural h.line) (.cons (.natural h.column) .nil)

theorem InWords.reads_reader (h : place.InWords) (style : Style) (level : Nat) :
    Reads reader (style.chars level place.toJson) place := by
  have hrecord := Json.reads_record "struct SourceLocation"
    ⟨("line", Json.readNatural), ("column", Json.readNatural)⟩ (by decide)
    (style.readsEnded_natural (level + 1) h.line) (style.readsEnded_natural (level + 1) h.column)
  exact hrecord.map reader (fun found => ⟨found.1, found.2⟩) fun _ => rfl

theorem framed (h : place.InWords) :
    Framed toJson (readWith? reader) place :=
  framed_of_reads (h.fits_toJson 0) (h.reads_reader .compact 0)

end Location

theorem Span.framed {span : Span} (h : span.InWords) :
    Framed toJson (readWith? reader) span := by
  have hfits : Fits 3 span.toJson :=
    .cons (h.start.fits_toJson 0) (.cons (h.stop.fits_toJson 0) .nil)
  have hrecord := Json.reads_record "struct SourceSpan"
    ⟨("start", Location.reader), ("end", Location.reader)⟩ (by decide)
    (h.start.reads_reader .compact 1).ended (h.stop.reads_reader .compact 1).ended
  exact framed_of_reads hfits (hrecord.map reader (fun found => ⟨found.1, found.2⟩) fun _ => rfl)

/-!
Lines of messages.
-/

theorem toList_output (lines : List String) :
    (Chat.output lines).toList = lines.flatMap fun line => line.toList ++ ['\n'] := by
  simp [Chat.output, String.toList_join, List.flatMap_map]

/-- Lines that have been put out one after another are told apart again. -/
theorem pieces_output {lines : List String} (h : ∀ line ∈ lines, '\n' ∉ line.toList) :
    Text.pieces '\n' (Chat.output lines).toList = lines.map String.toList ++ [[]] := by
  rw [toList_output]
  induction lines with
  | nil => rfl
  | cons line lines ih =>
      have hrest := ih fun other hother => h other (List.mem_cons_of_mem line hother)
      rw [List.flatMap_cons, List.append_assoc, List.singleton_append,
        Text.pieces_append_cons (h line List.mem_cons_self), hrest]
      rfl

def messageLabel : String := "MESSAGE_JSON:"

/-- The message in a line, behind its label. -/
def messageIn? (line : List Char) : Option Message :=
  if messageLabel.toList.isPrefixOf line then
    Message.read? (String.ofList (line.drop messageLabel.toList.length))
  else none

theorem messageIn?_line (message : Message) :
    messageIn? (messageLabel ++ message.toJson.compact).toList = some message := by
  rw [messageIn?, String.toList_append, if_pos (by simp), List.drop_left, String.ofList_toList]
  exact message.framed.readBack

/-- Everything that goes back and forth is written in one line and read back, and from the lines of
a list of messages, one for each, the list is recovered. -/
theorem protocol_round_trip (event : Event) (message : Message) (button : Button) (action : Action)
    (snapshot : Session.Snapshot) {place : Location} (hplace : place.InWords) {span : Span}
    (hspan : span.InWords) (messages : List Message) :
    Framed Event.toJson Event.read? event ∧ Framed Message.toJson Message.read? message ∧
      Framed Button.toJson Button.read? button ∧ Framed Action.toJson Action.read? action ∧
      Framed Session.Snapshot.toJson (readWith? Session.Snapshot.reader) snapshot ∧
      Framed Location.toJson (readWith? Location.reader) place ∧
      Framed Span.toJson (readWith? Span.reader) span ∧
      let printed := Text.pieces '\n' (Chat.output (Command.messageLines messages)).toList
      printed = messages.map (fun message =>
          (messageLabel ++ message.toJson.compact).toList) ++ [[]] ∧
        printed.dropLast.mapM messageIn? = some messages := by
  have hlines : ∀ line ∈ Command.messageLines messages, '\n' ∉ line.toList := by
    intro line hline
    obtain ⟨message, _, rfl⟩ := List.mem_map.mp hline
    have hlabel : Printable messageLabel.toList := by simp [messageLabel]
    have hprintable : Printable (messageLabel.toList ++ message.toJson.compact.toList) :=
      Json.printable_append.mpr ⟨hlabel, message.framed.oneLine⟩
    rw [String.toList_append]
    exact fun hbreak => absurd (hprintable _ hbreak) (by decide)
  have hpieces : Text.pieces '\n' (Chat.output (Command.messageLines messages)).toList =
      messages.map (fun message => (messageLabel ++ message.toJson.compact).toList) ++ [[]] := by
    rw [pieces_output hlines, Command.messageLines, List.map_map]
    rfl
  refine ⟨event.framed, message.framed, button.framed, action.framed, snapshot.framed,
    Location.framed hplace, Span.framed hspan, hpieces, ?_⟩
  rw [hpieces, List.dropLast_concat]
  exact mapM_map_eq_some messageIn?_line messages

theorem protocol_round_trip_menu :
    let action : Action := .webUrl "http://a/" none
    let menu : Message := .buttons "a\n\"b\"" [⟨"\u2028", action⟩, ⟨"", .postback "nav://main"⟩]
    let snapshot : Session.Snapshot := ⟨.ofList [("k", "v")], .ofList [("h", ∅)]⟩
    let place : Location := ⟨1, 18446744073709551615⟩
    let messages : List Message := [menu, .attachment "image" "http://a/b", .text ""]
    Framed Event.toJson Event.read? (.message "\t" ["http://a/"]) ∧
      Framed Message.toJson Message.read? menu ∧
      Framed Button.toJson Button.read? ⟨"\u2028", action⟩ ∧
      Framed Action.toJson Action.read? action ∧
      Framed Session.Snapshot.toJson (readWith? Session.Snapshot.reader) snapshot ∧
      Framed Location.toJson (readWith? Location.reader) place ∧
      Framed Span.toJson (readWith? Span.reader) ⟨.first, place⟩ ∧
      let printed := Text.pieces '\n' (Chat.output (Command.messageLines messages)).toList
      printed = messages.map (fun message =>
          (messageLabel ++ message.toJson.compact).toList) ++ [[]] ∧
        printed.dropLast.mapM messageIn? = some messages :=
  have hfirst : Location.first.InWords := ⟨by decide, by decide⟩
  have hplace : Location.InWords ⟨1, 18446744073709551615⟩ := ⟨by decide, by decide⟩
  protocol_round_trip (.message "\t" ["http://a/"]) _ _ _ _ hplace ⟨hfirst, hplace⟩ _

end Colloquy
