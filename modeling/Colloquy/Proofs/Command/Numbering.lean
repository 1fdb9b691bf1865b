import Colloquy.Command.Chat
import Colloquy.Proofs.Script.Compiled
import Colloquy.Proofs.Text.Numeral

/-!
Numbers in a chat.  At every prompt the number of a button means the button that was printed with it
in the buttons message shown last, however many lines without buttons have come since; other numbers
are free text, and commands never are.
-/

namespace Colloquy

open Session (Keeper)

namespace Chat

/-!
Numbers as they are printed.
-/

def label (number : Nat) : String := "  [" ++ toString number ++ "] "

/-- The button has a line of its own in the message, behind the title, with this number. -/
inductive PrintedAs (number : Nat) (button : Button) : Message → Prop where
  | intro {title : String} {items : List Button} {position : Nat}
      (listed : items[position]? = some button)
      (printed : (shown (.buttons title items))[position + 1]? =
        some (label number ++ button.title)) :
      PrintedAs number button (.buttons title items)

theorem getElem?_shown (title : String) (items : List Button) (position : Nat) :
    (shown (.buttons title items))[position + 1]? =
      items[position]?.map fun button => label (position + 1) ++ button.title := by
  rw [shown, List.getElem?_cons_succ, List.getElem?_mapIdx]
  rfl

theorem label_injective {number other : Nat} (h : label number = label other) :
    number = other := by
  have hchars := congrArg String.toList h
  simp only [label, String.toList_append, List.append_cancel_right_eq,
    List.append_cancel_left_eq] at hchars
  have hdigits := congrArg (fun digits => Nat.ofDigitChars 10 digits 0) hchars
  simpa [Nat.toString_eq_ofList_toDigits] using hdigits

theorem printedAs_iff {number : Nat} {button : Button} {title : String} {items : List Button} :
    PrintedAs number button (.buttons title items) ↔
      ∃ position, number = position + 1 ∧ items[position]? = some button := by
  constructor
  · rintro (@⟨_, _, position, hlisted, hprinted⟩)
    rw [getElem?_shown, hlisted, Option.map_some, Option.some.injEq] at hprinted
    have hchars := congrArg String.toList hprinted
    rw [String.toList_append, String.toList_append, List.append_cancel_right_eq] at hchars
    exact ⟨position, (label_injective (String.toList_inj.mp hchars)).symm, hlisted⟩
  · rintro ⟨position, rfl, hlisted⟩
    refine .intro hlisted ?_
    rw [getElem?_shown, hlisted]
    rfl

/-!
Numbers as they are read.
-/

theorem numbered?_eq_some_iff {buttons : List Button} {line : String} {button : Button} :
    numbered? buttons line = some button ↔
      ∃ position, Text.Denotes line (position + 1 : Nat) ∧ position + 1 < Text.positionBound ∧
        buttons[position]? = some button := by
  rw [numbered?]
  constructor
  · intro hbutton
    split at hbutton
    · next position hread =>
      obtain ⟨hdenotes, hlt⟩ := Text.naturalBelow?_eq_some_succ_iff.mp hread
      exact ⟨position, hdenotes, hlt, hbutton⟩
    · cases hbutton
  · rintro ⟨position, hdenotes, hlt, hbutton⟩
    rw [Text.naturalBelow?_eq_some_succ_iff.mpr ⟨hdenotes, hlt⟩]
    exact hbutton

variable {κ : Type} [Keeper κ]

/-- What an event leads to. -/
def tell (chat : Chat κ) (event : Event) : String × Turn × Chat κ :=
  let reply := chat.conversation.handle event chat.world
  (output (reply.1.flatMap shown), .on,
    { chat with world := reply.2, buttons := (latestButtons? reply.1).getD chat.buttons })

/-- What a button leads to.  Only a postback involves the bot. -/
def press (chat : Chat κ) (button : Button) : String × Turn × Chat κ :=
  match button.action with
  | .postback payload => chat.tell (.postback payload)
  | .webUrl url _ => (output ["open: " ++ url], .on, chat)

theorem hear_of_send {chat : Chat κ} {raw : String} {event : Event}
    (h : Line.parse chat.buttons raw = .send event) : chat.hear raw = chat.tell event := by
  rw [hear, h, tell]

theorem hear_of_press {chat : Chat κ} {raw : String} {button : Button}
    (h : Line.parse chat.buttons raw = Line.press button) : chat.hear raw = chat.press button := by
  obtain ⟨title, action⟩ := button
  cases action with
  | postback payload => exact hear_of_send h
  | webUrl url ratio =>
      rw [hear, h]
      rfl

/-!
Prompts.
-/

/-- The messages that are shown in answer to a line. -/
def rendered (chat : Chat κ) (raw : String) : List Message :=
  match Line.parse chat.buttons raw with
  | .send event => (chat.conversation.handle event chat.world).1
  | _ => []

/-- Over these lines the chat comes to a prompt: what was said on the way, and the messages among
it. -/
inductive Goes : Chat κ → List String → String → List Message → Chat κ → Prop where
  | here (chat : Chat κ) : Goes chat [] "" [] chat
  | on {chat next last : Chat κ} {raw said later : String} {lines : List String}
      {messages : List Message} (h : chat.hear raw = (said, .on, next))
      (rest : Goes next lines later messages last) :
      Goes chat (raw :: lines) (prompt ++ said ++ later) (chat.rendered raw ++ messages) last

theorem run_of_on {chat next : Chat κ} {raw said : String} (h : chat.hear raw = (said, .on, next))
    (rest : List (Option String)) :
    chat.run (some raw :: rest) = (prompt ++ said ++ (next.run rest).1, (next.run rest).2) := by
  rw [run, h]

theorem Goes.run_eq {chat last : Chat κ} {typed : List String} {said : String}
    {messages : List Message} (h : Goes chat typed said messages last)
    (rest : List (Option String)) :
    chat.run (typed.map some ++ rest) = (said ++ (last.run rest).1, (last.run rest).2) := by
  induction h with
  | here chat => simp
  | on h _ ih =>
      rw [List.map_cons, List.cons_append, run_of_on h, ih]
      simp only [String.append_assoc]

/-- Each prompt is reached unless the chat is over by then, whatever would come after. -/
theorem goes_or_over (chat : Chat κ) (typed : List String) :
    (∃ said messages last, Goes chat typed said messages last) ∨
      ∃ said last, ∀ rest, chat.run (typed.map some ++ rest) = (said, .closed, last) := by
  induction typed generalizing chat with
  | nil => exact .inl ⟨"", [], chat, .here chat⟩
  | cons raw lines ih =>
      rcases hhear : chat.hear raw with ⟨said, _ | _, next⟩
      · rcases ih next with ⟨later, messages, last, hgoes⟩ | ⟨later, last, hover⟩
        · exact .inl ⟨_, _, last, .on hhear hgoes⟩
        · refine .inr ⟨prompt ++ said ++ later, last, fun rest => ?_⟩
          rw [List.map_cons, List.cons_append, run_of_on hhear, hover]
      · refine .inr ⟨prompt ++ said, next, fun rest => ?_⟩
        rw [List.map_cons, List.cons_append, run, hhear]

/-!
The buttons that are remembered from prompt to prompt.
-/

theorem latestButtons?_append (earlier later : List Message) :
    latestButtons? (earlier ++ later) = (latestButtons? later).or (latestButtons? earlier) := by
  rw [latestButtons?, List.reverse_append, List.findSome?_append]
  rfl

def HasButtons (messages : List Message) : Prop :=
  ∃ title items, .buttons title items ∈ messages

theorem latestButtons?_eq_none {messages : List Message} (h : ¬ HasButtons messages) :
    latestButtons? messages = none := by
  refine List.findSome?_eq_none_iff.mpr fun message hmessage => ?_
  cases message with
  | text content => rfl
  | attachment kind url => rfl
  | buttons title items => exact absurd ⟨title, items, List.mem_reverse.mp hmessage⟩ h

/-- Of all buttons messages this one comes last. -/
def IsLatest (messages : List Message) (title : String) (items : List Button) : Prop :=
  ∃ earlier later, messages = earlier ++ .buttons title items :: later ∧ ¬ HasButtons later

theorem IsLatest.latestButtons?_eq {messages : List Message} {title : String}
    {items : List Button} (h : IsLatest messages title items) :
    latestButtons? messages = some items := by
  obtain ⟨earlier, later, rfl, hlater⟩ := h
  rw [← List.singleton_append, latestButtons?_append, latestButtons?_append,
    latestButtons?_eq_none hlater]
  rfl

theorem exists_isLatest {messages : List Message} (h : HasButtons messages) :
    ∃ title items, IsLatest messages title items := by
  induction messages with
  | nil =>
      obtain ⟨title, items, hmem⟩ := h
      cases hmem
  | cons message messages ih =>
      by_cases hlater : HasButtons messages
      · obtain ⟨title, items, earlier, later, rfl, hlast⟩ := ih hlater
        exact ⟨title, items, message :: earlier, later, rfl, hlast⟩
      · obtain ⟨title, items, hmem⟩ := h
        rcases List.mem_cons.mp hmem with rfl | hmem
        · exact ⟨title, items, [], messages, rfl, hlater⟩
        · exact absurd ⟨title, items, hmem⟩ hlater

theorem rendered_of_ne_send {chat : Chat κ} {raw : String}
    (h : ∀ event, Line.parse chat.buttons raw ≠ .send event) : chat.rendered raw = [] := by
  unfold rendered
  split
  · next event hparse => exact absurd hparse (h event)
  · rfl

/-- A line that is not sent leaves the chat as it is. -/
theorem hear_of_ne_send {chat : Chat κ} {raw : String}
    (h : ∀ event, Line.parse chat.buttons raw ≠ .send event) : (chat.hear raw).2.2 = chat := by
  unfold hear
  split
  · next event hparse => exact absurd hparse (h event)
  all_goals rfl

theorem buttons_hear (chat : Chat κ) (raw : String) :
    (chat.hear raw).2.2.buttons = (latestButtons? (chat.rendered raw)).getD chat.buttons := by
  by_cases hsend : ∃ event, Line.parse chat.buttons raw = .send event
  · obtain ⟨event, hparse⟩ := hsend
    rw [hear_of_send hparse, rendered, hparse]
    rfl
  · have hne : ∀ event, Line.parse chat.buttons raw ≠ .send event := not_exists.mp hsend
    rw [hear_of_ne_send hne, rendered_of_ne_send hne]
    rfl

/-- What is remembered at a prompt are the buttons of the last message that had some. -/
theorem Goes.buttons_eq {chat last : Chat κ} {typed : List String} {said : String}
    {messages : List Message} (h : Goes chat typed said messages last) :
    last.buttons = (latestButtons? messages).getD chat.buttons := by
  induction h with
  | here chat => rfl
  | @on chat next last raw said later lines messages hhear _ ih =>
      have hnext := chat.buttons_hear raw
      rw [hhear] at hnext
      rw [ih, hnext, latestButtons?_append, Option.getD_or]

/-!
Numbers at a prompt.
-/

/-- A session before its first prompt. -/
def opened (conversation : Conversation) (world : World κ) : Chat κ := ⟨conversation, world, []⟩

theorem Goes.buttons_of_isLatest {conversation : Conversation} {world : World κ}
    {typed : List String} {said title : String} {messages : List Message} {items : List Button}
    {last : Chat κ} (h : Goes (opened conversation world) typed said messages last)
    (hlatest : IsLatest messages title items) : last.buttons = items := by
  rw [h.buttons_eq, hlatest.latestButtons?_eq]
  rfl

theorem Goes.buttons_of_not_hasButtons {conversation : Conversation} {world : World κ}
    {typed : List String} {said : String} {messages : List Message} {last : Chat κ}
    (h : Goes (opened conversation world) typed said messages last)
    (hnone : ¬ HasButtons messages) : last.buttons = [] := by
  rw [h.buttons_eq, latestButtons?_eq_none hnone]
  rfl

theorem head?_of_denotes {line : String} {n : Int} (h : Text.Denotes line n) :
    line.toList.head? ≠ some ':' := by
  obtain ⟨sign, digits, hwritten, hne, hdigit, _⟩ := h
  obtain ⟨c, rest, rfl⟩ := List.exists_cons_of_ne_nil hne
  rw [hwritten]
  cases sign with
  | none =>
      rintro ⟨⟩
      exact absurd (hdigit ':' List.mem_cons_self) (by decide)
  | plus => exact fun h => nomatch h
  | minus => exact fun h => nomatch h

theorem hear_of_numbered {chat : Chat κ} {raw : String} {button : Button}
    (hhead : (Text.trim raw).toList.head? ≠ some ':')
    (h : numbered? chat.buttons (Text.trim raw) = some button) :
    chat.hear raw = chat.press button := by
  apply hear_of_press
  rw [Line.parse_of_plain hhead, h]
  rfl

theorem hear_of_not_numbered {chat : Chat κ} {raw : String}
    (hhead : (Text.trim raw).toList.head? ≠ some ':')
    (h : numbered? chat.buttons (Text.trim raw) = none) :
    chat.hear raw = chat.tell (.message (Text.trim raw) []) := by
  apply hear_of_send
  rw [Line.parse_of_plain hhead, h]
  rfl

theorem output_of_rendered {chat : Chat κ} {raw : String} (h : chat.rendered raw ≠ []) :
    (chat.hear raw).1 = output ((chat.rendered raw).flatMap shown) := by
  by_cases hsend : ∃ event, Line.parse chat.buttons raw = .send event
  · obtain ⟨event, hparse⟩ := hsend
    rw [hear_of_send hparse, rendered, hparse]
    rfl
  · exact absurd (rendered_of_ne_send (not_exists.mp hsend)) h

/-- What lines mean at a prompt, after these messages. -/
structure Means (messages : List Message) (chat : Chat κ) (raw : String) : Prop where
  /-- Messages in answer are printed. -/
  printed : chat.rendered raw ≠ [] →
    (chat.hear raw).1 = output ((chat.rendered raw).flatMap shown)
  /-- The number of a button presses it. -/
  pressed : ∀ title items, IsLatest messages title items →
    ∀ number : Nat, Text.Denotes (Text.trim raw) number → 1 ≤ number → number ≤ items.length →
      number < 2 ^ 64 →
      (∃ button, PrintedAs number button (.buttons title items)) ∧
        ∀ button, PrintedAs number button (.buttons title items) →
          chat.hear raw = chat.press button
  /-- All other numbers are free text. -/
  told : ∀ n : Int, Text.Denotes (Text.trim raw) n →
    (∀ title items, IsLatest messages title items → n < 1 ∨ items.length < n ∨ 2 ^ 64 ≤ n) →
    chat.hear raw = chat.tell (.message (Text.trim raw) [])
  /-- Commands are not. -/
  command : (Text.trim raw).toList.head? = some ':' → ∀ content attachments,
    Line.parse chat.buttons raw = .send (.message content attachments) →
      content = "" ∧ attachments ≠ []

theorem Goes.means {conversation : Conversation} {world : World κ} {typed : List String}
    {said : String} {messages : List Message} {last : Chat κ}
    (h : Goes (opened conversation world) typed said messages last) (raw : String) :
    Means messages last raw where
  printed := output_of_rendered
  pressed := by
    intro title items hlatest number hdenotes hone hle hlt
    have hpress : ∀ button, PrintedAs number button (.buttons title items) →
        last.hear raw = last.press button := by
      intro button hprinted
      obtain ⟨position, rfl, hlisted⟩ := printedAs_iff.mp hprinted
      refine hear_of_numbered (head?_of_denotes hdenotes) ?_
      rw [h.buttons_of_isLatest hlatest]
      exact numbered?_eq_some_iff.mpr ⟨position, hdenotes, hlt, hlisted⟩
    obtain ⟨position, rfl⟩ := Nat.exists_eq_add_of_le' hone
    have hlisted := List.getElem?_eq_getElem (Nat.lt_of_succ_le hle)
    exact ⟨⟨_, printedAs_iff.mpr ⟨position, rfl, hlisted⟩⟩, hpress⟩
  told := by
    intro n hdenotes hout
    refine hear_of_not_numbered (head?_of_denotes hdenotes) ?_
    refine Option.eq_none_iff_forall_ne_some.mpr fun button hbutton => ?_
    obtain ⟨position, hposition, hlt, hlisted⟩ := numbered?_eq_some_iff.mp hbutton
    obtain rfl : n = (position + 1 : Nat) := hdenotes.unique hposition
    by_cases hany : HasButtons messages
    · obtain ⟨title, items, hlatest⟩ := exists_isLatest hany
      rw [h.buttons_of_isLatest hlatest] at hlisted
      obtain ⟨hlength, _⟩ := List.getElem?_eq_some_iff.mp hlisted
      have hout := hout title items hlatest
      rw [Text.positionBound] at hlt
      omega
    · rw [h.buttons_of_not_hasButtons hany] at hlisted
      cases hlisted
  command := by
    intro hhead content attachments hparse
    obtain ⟨hcontent, url, rfl⟩ := Line.parse_of_colon hhead hparse
    exact ⟨hcontent, List.cons_ne_nil url []⟩

/-- In every session, whatever has been typed and answered, each prompt that is reached takes the
numbers that were printed last, and takes them for nothing else. -/
theorem numbers_mean_printed (conversation : Conversation) (world : World κ)
    (typed : List String) :
    ((∃ said messages last, Goes (opened conversation world) typed said messages last) ∨
      ∃ said last, ∀ rest,
        (opened conversation world).run (typed.map some ++ rest) = (said, .closed, last)) ∧
    ∀ said messages last, Goes (opened conversation world) typed said messages last →
      (∀ rest, (opened conversation world).run (typed.map some ++ rest) =
        (said ++ (last.run rest).1, (last.run rest).2)) ∧
      ∀ raw, Means messages last raw :=
  ⟨goes_or_over _ typed, fun _ _ _ hgoes => ⟨hgoes.run_eq, hgoes.means⟩⟩

/-- A menu with a link of its own and one to the web. -/
def guideFlow : Flow where
  id := "main"
  title := "Where to?"
  links := [⟨"on", "On", "nav://main", .route (.new .nav "main"), false, false, "tall"⟩,
    ⟨"map", "Map", "http://m/", .external "http://m/", false, false, "tall"⟩]

def guide : Conversation where
  engine.script := { Script.ticketScript with flows := [guideFlow] }
  engine.composer := fun _ => .error .request
  session := "s"

def guideWorld : World Session.Memory := ⟨.inMemory, ⟨0⟩, []⟩

def guideMap : Button := ⟨"Map", .webUrl "http://m/" none⟩

/-- After the menu was shown. -/
def guideChat : Chat Session.Memory := ⟨guide, guideWorld, guideFlow.buttons⟩

theorem goes_guide :
    ∃ said,
      Goes (opened guide guideWorld) [":start", ":help"] said guideFlow.present guideChat := by
  have hparse : Line.parse (opened guide guideWorld).buttons ":start" = .send .optIn := by decide
  have hgreeting : guide.script.greeting = guideFlow.present := by decide
  have hreply : guide.handle .optIn guideWorld = (guideFlow.present, guideWorld) :=
    congrArg (·, guideWorld) hgreeting
  have hstart : (opened guide guideWorld).hear ":start" =
      (output (guideFlow.present.flatMap shown), .on, guideChat) := by
    rw [hear_of_send hparse]
    simp only [tell, opened, hreply]
    rfl
  have hshown : (opened guide guideWorld).rendered ":start" = guideFlow.present := by
    rw [rendered, hparse]
    exact congrArg Prod.fst hreply
  have hhelp : Line.parse guideChat.buttons ":help" = .help := by decide
  have hquiet : guideChat.hear ":help" = (output [helpLine], .on, guideChat) := by
    rw [hear, hhelp]
  have hnothing : guideChat.rendered ":help" = [] := by
    rw [rendered, hhelp]
  have hgoes := Goes.on hstart (.on hquiet (.here guideChat))
  rw [hshown, hnothing, List.append_nil, List.append_nil] at hgoes
  exact ⟨_, hgoes⟩

/-- The menu was shown once, and its numbers still count after a call for help. -/
theorem numbers_mean_printed_guide :
    ∃ said, Goes (opened guide guideWorld) [":start", ":help"] said guideFlow.present guideChat ∧
      IsLatest guideFlow.present "Where to?" guideFlow.buttons ∧
      PrintedAs 2 guideMap (.buttons "Where to?" guideFlow.buttons) ∧
      guideChat.hear " +02" = (output ["open: http://m/"], .on, guideChat) ∧
      guideChat.hear "3" = guideChat.tell (.message "3" []) ∧
      guideChat.hear "18446744073709551617" =
        guideChat.tell (.message "18446744073709551617" []) := by
  obtain ⟨said, hgoes⟩ := goes_guide
  have hmeans := ((numbers_mean_printed guide guideWorld _).2 _ _ _ hgoes).2
  have hlatest : IsLatest guideFlow.present "Where to?" guideFlow.buttons :=
    ⟨[], [], rfl, fun ⟨_, _, hmem⟩ => nomatch hmem⟩
  have hprinted : PrintedAs 2 guideMap (.buttons "Where to?" guideFlow.buttons) :=
    printedAs_iff.mpr ⟨1, rfl, rfl⟩
  have htwo : Text.Denotes (Text.trim " +02") (2 : Nat) :=
    Text.integer?_eq_some_iff.mp (by decide)
  have hpressed := ((hmeans " +02").pressed _ _ hlatest 2 htwo (by decide) (by decide)
    (by decide)).2 guideMap hprinted
  have hlength : ∀ title items, IsLatest guideFlow.present title items → items.length = 2 := by
    intro title items hother
    obtain rfl := Option.some.inj (hlatest.latestButtons?_eq.symm.trans hother.latestButtons?_eq)
    rfl
  have hthree : Text.Denotes (Text.trim "3") 3 := Text.integer?_eq_some_iff.mp (by decide)
  have hhuge : Text.Denotes (Text.trim "18446744073709551617") 18446744073709551617 :=
    Text.integer?_eq_some_iff.mp (by decide)
  refine ⟨said, hgoes, hlatest, hprinted, hpressed, ?_, ?_⟩
  · refine (hmeans "3").told 3 hthree fun title items hother => .inr (.inl ?_)
    rw [hlength title items hother]
    decide
  · exact (hmeans "18446744073709551617").told _ hhuge fun _ _ _ => .inr (.inr (by decide))

end Chat

end Colloquy
