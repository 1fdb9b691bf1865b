import Colloquy.Dialogue.Reply
import Colloquy.Session.Keys

/-!
Conversations: how a session goes through the menus and forms of a script.  Where a session stands
is read from the store at every step, so a conversation can be taken up again at any time.
-/

namespace Colloquy

open Session (Keeper Keys Store Write)

structure Conversation where
  engine : Engine
  session : String

/-- What is said, offered and done where the entry flow, or the form of a finished input, is
missing. -/
structure Fallback (κ : Type) where
  menu : List Message
  buttons : List Button
  close : Input → World κ → List Message × World κ

namespace Conversation

variable {κ : Type}

def script (c : Conversation) : Script := c.engine.script

def keys (c : Conversation) : Keys := ⟨c.script.id, c.session⟩

def errorMessages (c : Conversation) : List Message := c.script.errorMessages

/-- The fallback unless another one is named: the error text, and nothing more. -/
def usual (c : Conversation) : Fallback κ where
  menu := c.errorMessages
  buttons := []
  close _ world := (c.errorMessages, world)

/-!
What the store tells.  What cannot be read counts as missing.
-/

def pending? (c : Conversation) (store : Store κ) : Option Input :=
  match store.get c.keys.pointer with
  | .ok path => if path = "" then none else c.script.input? path
  | .error _ => none

def next? (c : Conversation) (store : Store κ) : Option Input :=
  (c.pending? store).bind c.script.nextInput?

def answerAt (c : Conversation) (path : String) (store : Store κ) : String :=
  match store.getHashValue c.keys.answers path with
  | .ok value => value
  | .error _ => ""

def answers (c : Conversation) (store : Store κ) : Dict String :=
  match store.getHash c.keys.answers with
  | .ok answers => answers
  | .error _ => ∅

/-- Whether an input is asked.  A condition on an input outside the form never holds. -/
def isVisible (c : Conversation) (input : Input) (store : Store κ) : Bool :=
  match input.condition with
  | none => true
  | some condition =>
    match c.script.sibling? input.scope condition.left with
    | some left => condition.holdsFor (c.answerAt left.path store)
    | none => false

/-!
What is changed in the store.
-/

variable [Keeper κ]

/-- Makes the input at `path` the pending one, or none for the empty path. -/
def advance (c : Conversation) (path : String) (world : World κ) : Bool × World κ :=
  world.write (if path = "" then .delete c.keys.pointer else .set c.keys.pointer path)

def record (c : Conversation) (path value : String) (world : World κ) : Bool × World κ :=
  world.write (.setHash c.keys.answers path value)

/-- Forgets where the session stands and all of its answers. -/
def reset (c : Conversation) (world : World κ) : Bool × World κ :=
  let (cleared, world) := world.write (.deleteHash c.keys.answers)
  let (advanced, world) := c.advance "" world
  (advanced && cleared, world)

/-!
Forms.
-/

/-- The form that the answers belong to: that of the first path that leads to an input. -/
def answeredForm (c : Conversation) (answers : Dict String) (reached : Form) : Form :=
  ((answers.keys.findSome? c.script.input?).bind c.script.formOf?).getD reached

def fields (c : Conversation) (answers : Dict String) : Dict String :=
  .ofList (answers.entries.filterMap fun (path, value) =>
    (c.script.input? path).map fun input => (input.id, value))

def submission (c : Conversation) (answers : Dict String) (reached : Form) : Submission :=
  let form := c.answeredForm answers reached
  ⟨c.session, form.id, form.action, c.fields answers⟩

/-- Delivers the answers and forgets them; `reached` is the form if there are none. -/
def finalize (c : Conversation) (reached : Form) (world : World κ) : World κ :=
  let world := world.note (.deliver (c.submission (c.answers world.store) reached))
  let (_, world) := world.write (.deleteHash c.keys.answers)
  (c.advance "" world).2

def complete (c : Conversation) (last : Input) (world : World κ)
    (fallback : Fallback κ := c.usual) : List Message × World κ :=
  match c.script.formOf? last with
  | some form => ([.text form.submit], c.finalize form world)
  | none => fallback.close last world

/-- How many inputs can still come after the pending one. -/
private def remaining (c : Conversation) (store : Store κ) : Nat :=
  c.script.entries.length -
    (((store.get c.keys.pointer).toOption.bind c.script.rank?).map (· + 1)).getD 0

omit [Keeper κ] in
theorem rank_of_next? {c : Conversation} {store : Store κ} {next : Input}
    (h : c.next? store = some next) :
    ∃ path rank, store.get c.keys.pointer = .ok path ∧ c.script.rank? path = some rank ∧
      c.script.inputAfter? rank = some next := by
  obtain ⟨pending, hpending, hnext⟩ := Option.bind_eq_some_iff.1 h
  simp only [Script.nextInput?, bind, Option.bind_eq_some_iff] at hnext
  obtain ⟨rank, hrank, hafter⟩ := hnext
  unfold pending? at hpending
  split at hpending
  · next path hpath =>
    split at hpending
    · cases hpending
    · rw [Script.path_input? hpending] at hrank
      exact ⟨path, rank, hpath, hrank, hafter⟩
  · cases hpending

theorem get_advance {c : Conversation} {world : World κ} {path before : String}
    (hget : world.store.get c.keys.pointer = .ok before)
    (hkept : (c.advance path world).1 = true) :
    (c.advance path world).2.store.get c.keys.pointer = .ok path := by
  have hread : ∀ store : Store κ, store.broken = world.store.broken →
      store.get c.keys.pointer = .ok (store.snapshot.value c.keys.pointer) := by
    intro store hstore
    unfold Store.get Store.read at hget ⊢
    rw [hstore]
    split
    · next h => simp [h, Except.map] at hget
    · rfl
  unfold advance at hkept ⊢
  rw [hread _ (by simp), World.store_write,
    Session.Store.snapshot_write_ok (World.kept_write hkept)]
  split
  · next h => simp [h]
  · simp

private theorem remaining_advance {c : Conversation} {world : World κ} {next : Input}
    (hnext : c.next? world.store = some next)
    (hkept : (c.advance next.path world).1 = true) :
    c.remaining (c.advance next.path world).2.store < c.remaining world.store := by
  obtain ⟨path, rank, hget, hrank, hafter⟩ := rank_of_next? hnext
  obtain ⟨later, hlater, hlt⟩ := Script.rank?_inputAfter hafter
  have := Script.rank?_lt hlater
  simp only [remaining, get_advance hget hkept, hget, Except.toOption, Option.bind_some, hlater,
    hrank, Option.map_some, Option.getD_some]
  omega

/-- Asks `current` or, if it is hidden, the next visible input of the form. -/
def presentFrom (c : Conversation) (current : Input) (world : World κ)
    (fallback : Fallback κ := c.usual) : List Message × World κ :=
  if c.isVisible current world.store then (c.script.ask current, world)
  else
    match _ : c.next? world.store with
    | none => c.complete current world fallback
    | some next =>
      if _ : (c.advance next.path world).1 = true then
        c.presentFrom next (c.advance next.path world).2 fallback
      else (c.errorMessages, (c.advance next.path world).2)
termination_by c.remaining world.store
decreasing_by exact remaining_advance ‹_› ‹_›

/-- Takes a form up: its title, and the pending input or else the first one. -/
def presentForm (c : Conversation) (form : Form) (world : World κ)
    (fallback : Fallback κ := c.usual) : List Message × World κ :=
  let title : Message := .text form.title
  match form.firstInput? with
  | none => ([title], world)
  | some first =>
    match c.pending? world.store with
    | some pending =>
      let (messages, world) := c.presentFrom pending world fallback
      (title :: messages, world)
    | none =>
      let (kept, world) := c.advance first.path world
      if kept then
        let (messages, world) := c.presentFrom first world fallback
        (title :: messages, world)
      else (c.errorMessages, world)

/-- Takes an answer to an input and goes on to the next one. -/
def answer (c : Conversation) (input : Input) (value : String) (world : World κ)
    (fallback : Fallback κ := c.usual) : List Message × World κ :=
  let (_, world) := c.record input.path value world
  match c.next? world.store with
  | none => c.complete input world fallback
  | some next =>
    let (kept, world) := c.advance next.path world
    if kept then c.presentFrom next world fallback else (c.errorMessages, world)

/-!
Events.
-/

def getStarted : String := "get_started"

/-- A message answers the pending input, or is free text. -/
def handleMessage (c : Conversation) (content : String) (attachments : List String)
    (world : World κ) (fallback : Fallback κ := c.usual) : List Message × World κ :=
  match c.pending? world.store with
  | none => c.engine.reply content world
  | some pending =>
    match pending.kind with
    | .text => c.answer pending content world fallback
    | .file =>
      match attachments with
      | url :: _ => c.answer pending url world fallback
      | [] => ([.text c.engine.fileRetryText], world)
    | .options | .other _ => (c.script.ask pending, world)

/-- The option that a token selects, by its position. -/
def selected? (pending : Input) (token : Routing.Token) : Option Choice := do
  let position ← Text.naturalBelow? Text.positionBound (← token.param? Routing.Token.optionParam)
  pending.options[position]?

/-- An option button answers the input that it was shown for and no other. -/
def handleOption (c : Conversation) (token : Routing.Token) (world : World κ)
    (fallback : Fallback κ := c.usual) : List Message × World κ :=
  match c.pending? world.store with
  | none => (c.script.presentMain fallback.menu, world)
  | some pending =>
    match pending.kind with
    | .options =>
      if (token.param? Routing.Token.inputParam).any (· ≠ pending.path) then
        (c.script.ask pending, world)
      else
        match selected? pending token with
        | some choice => c.answer pending choice.key world fallback
        | none => (c.errorMessages, world)
    | .file => ([.text c.engine.fileRetryText], world)
    | .text | .other _ => (c.errorMessages, world)

def follow (c : Conversation) (token : Routing.Token) (world : World κ)
    (fallback : Fallback κ := c.usual) : List Message × World κ :=
  match token.scheme with
  | .nav =>
    match c.script.flow? token.host with
    | some flow => (flow.present, world)
    | none => (c.errorMessages, world)
  | .form =>
    match c.script.form? token.host with
    | some form => c.presentForm form world fallback
    | none => (c.errorMessages, world)
  | .answer => c.handleOption token world fallback
  | .other _ => (c.errorMessages, world)

def handlePostback (c : Conversation) (payload : String) (world : World κ)
    (fallback : Fallback κ := c.usual) : List Message × World κ :=
  if payload = getStarted then (c.script.greeting fallback.menu, world)
  else
    match Routing.Token.parse payload with
    | .error _ => (c.errorMessages, world)
    | .ok token =>
      c.follow token (if token.requestsReset then (c.reset world).2 else world) fallback

def handle (c : Conversation) (event : Event) (world : World κ)
    (fallback : Fallback κ := c.usual) : List Message × World κ :=
  match event with
  | .optIn => (c.script.greeting fallback.menu, world)
  | .message content attachments => c.handleMessage content attachments world fallback
  | .postback payload => c.handlePostback payload world fallback

end Conversation

end Colloquy
