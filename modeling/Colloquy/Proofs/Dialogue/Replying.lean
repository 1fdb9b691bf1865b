import Colloquy.Proofs.Dialogue.Steps
import Colloquy.Script.Compile

/-!
Every event gets a reply of one or two messages, whatever the store holds and whichever of its
operations fail, and only the last of them can offer buttons.  A bot stays silent only if it answers
free text with a reply that holds nothing.
-/

namespace Colloquy

open Session (Keeper Store)

/-- One or two messages, of which only the last can offer buttons. -/
inductive Spoken : List Message → Prop where
  | one (last : Message) : Spoken [last]
  | two {first : Message} (last : Message)
      (plain : ∀ title buttons, first ≠ .buttons title buttons) : Spoken [first, last]

theorem Spoken.text_cons (content : String) (last : Message) :
    Spoken [.text content, last] :=
  .two last fun _ _ h => by cases h

namespace Reply

variable {reply : Reply}

/-- A reply without a label and without an attachment. -/
def IsHollow (reply : Reply) : Prop := reply.label = none ∧ reply.attachment = none

theorem spoken_messages (h : ¬ reply.IsHollow) : Spoken reply.messages := by
  obtain ⟨label, attachment⟩ := reply
  cases label with
  | none =>
      cases attachment with
      | none => exact absurd ⟨rfl, rfl⟩ h
      | some attachment => exact .one _
  | some label =>
      cases attachment with
      | none => exact .one _
      | some attachment => exact .text_cons _ _

theorem messages_of_isHollow (h : reply.IsHollow) : reply.messages = [] := by
  rw [messages, h.1, h.2]
  rfl

end Reply

namespace Script

variable (script : Script)

theorem exists_presentMain : ∃ message, script.presentMain = [message] := by
  unfold presentMain
  cases script.mainFlow? with
  | none => exact ⟨_, rfl⟩
  | some flow => exact ⟨_, rfl⟩

theorem spoken_greeting : Spoken script.greeting := by
  obtain ⟨message, hmain⟩ := script.exists_presentMain
  rw [greeting, hmain]
  cases script.config? descriptionKey with
  | none => exact .one message
  | some description => exact .text_cons description message

theorem exists_ask (input : Input) : ∃ message, script.ask input = [message] := by
  unfold ask
  cases input.kind <;> exact ⟨_, rfl⟩

end Script

namespace Engine

variable {κ : Type} {engine : Engine}

theorem exists_compose (template content : String) (world : World κ) :
    ∃ message, (engine.compose template content world).1 = [message] := by
  unfold compose
  dsimp only
  split
  · split
    · exact ⟨_, rfl⟩
    · exact ⟨_, rfl⟩
  · exact ⟨_, rfl⟩

/-- Free text is answered with a reply that holds nothing. -/
def Mutes (engine : Engine) (content : String) (picker : Picker) : Prop :=
  ∃ template reply, engine.script.templates.find? (·.answers content) = some template ∧
    template.replies[(picker.pick template.replies.length).1]? = some reply ∧ reply.IsHollow

theorem spoken_reply (content : String) (world : World κ) :
    (engine.Mutes content world.picker → (engine.reply content world).1 = []) ∧
      (¬ engine.Mutes content world.picker → Spoken (engine.reply content world).1) := by
  unfold reply
  cases htemplate : engine.script.templates.find? (·.answers content) with
  | none =>
      have hnot : ¬ engine.Mutes content world.picker := by
        rintro ⟨template, _, hfound, _⟩
        cases htemplate.symm.trans hfound
      refine ⟨fun h => absurd h hnot, fun _ => ?_⟩
      cases engine.script.config? Composer.configKey with
      | none => exact .one _
      | some template =>
          obtain ⟨message, hmessage⟩ := engine.exists_compose template content world
          exact hmessage ▸ .one message
  | some template =>
      dsimp only [replyFrom]
      cases hreply : template.replies[(world.picker.pick template.replies.length).1]? with
      | none =>
          refine ⟨?_, fun _ => .one _⟩
          rintro ⟨other, _, hother, hfound, _⟩
          cases htemplate.symm.trans hother
          cases hreply.symm.trans hfound
      | some reply =>
          constructor
          · rintro ⟨other, found, hother, hfound, hhollow⟩
            cases htemplate.symm.trans hother
            cases hreply.symm.trans hfound
            exact Reply.messages_of_isHollow hhollow
          · intro hnot
            exact Reply.spoken_messages fun hhollow =>
              hnot ⟨template, reply, htemplate, hreply, hhollow⟩

end Engine

namespace Conversation

variable {κ : Type} [Keeper κ] {c : Conversation} {world : World κ}

theorem exists_complete (last : Input) (world : World κ) :
    ∃ message, (c.complete last world).1 = [message] := by
  unfold complete
  cases c.script.formOf? last with
  | none => exact ⟨_, rfl⟩
  | some form => exact ⟨_, rfl⟩

theorem exists_presentFrom (current : Input) (world : World κ) :
    ∃ message, (c.presentFrom current world).1 = [message] := by
  fun_induction c.presentFrom current world with
  | case1 current world hvisible => exact c.script.exists_ask current
  | case2 current world hhidden hnext => exact exists_complete current world
  | case3 current world hhidden next hnext hkept ih => exact ih
  | case4 current world hhidden next hnext hlost => exact ⟨_, rfl⟩

theorem exists_answer (input : Input) (value : String) (world : World κ) :
    ∃ message, (c.answer input value world).1 = [message] := by
  unfold answer
  dsimp only
  cases c.next? (c.record input.path value world).2.store with
  | none => exact exists_complete input _
  | some next =>
      dsimp only
      split
      · exact exists_presentFrom next _
      · exact ⟨_, rfl⟩

theorem spoken_presentForm (form : Form) (world : World κ) :
    Spoken (c.presentForm form world).1 := by
  unfold presentForm
  cases form.firstInput? with
  | none => exact .one _
  | some first =>
      cases c.pending? world.store with
      | some pending =>
          obtain ⟨message, hmessage⟩ := exists_presentFrom (c := c) pending world
          dsimp only
          exact hmessage ▸ .text_cons form.title message
      | none =>
          dsimp only
          split
          · obtain ⟨message, hmessage⟩ :=
              exists_presentFrom (c := c) first (c.advance first.path world).2
            exact hmessage ▸ .text_cons form.title message
          · exact .one _

theorem spoken_handleOption (token : Routing.Token) (world : World κ) :
    Spoken (c.handleOption token world).1 := by
  unfold handleOption
  cases c.pending? world.store with
  | none =>
      obtain ⟨message, hmessage⟩ := c.script.exists_presentMain
      exact hmessage ▸ .one message
  | some pending =>
      obtain ⟨question, hquestion⟩ := c.script.exists_ask pending
      dsimp only
      cases pending.kind with
      | options =>
          dsimp only
          split
          · exact hquestion ▸ .one question
          · cases selected? pending token with
            | none => exact .one _
            | some choice =>
                obtain ⟨message, hmessage⟩ := exists_answer (c := c) pending choice.key world
                exact hmessage ▸ .one message
      | text => exact .one _
      | file => exact .one _
      | other name => exact .one _

theorem spoken_follow (token : Routing.Token) (world : World κ) :
    Spoken (c.follow token world).1 := by
  unfold follow
  cases token.scheme with
  | nav =>
      cases c.script.flow? token.host with
      | none => exact .one _
      | some flow => exact .one _
  | form =>
      cases c.script.form? token.host with
      | none => exact .one _
      | some form => exact spoken_presentForm form world
  | answer => exact spoken_handleOption token world
  | other name => exact .one _

theorem spoken_handlePostback (payload : String) (world : World κ) :
    Spoken (c.handlePostback payload world).1 := by
  unfold handlePostback
  split
  · exact c.script.spoken_greeting
  · cases Routing.Token.parse payload with
    | error fault => exact .one _
    | ok token => exact spoken_follow token _

/-- While an input is pending, a message is always met with an answer, a question or a prompt. -/
theorem spoken_handleMessage_of_pending {pending : Input}
    (hpending : c.pending? world.store = some pending) (content : String)
    (attachments : List String) : Spoken (c.handleMessage content attachments world).1 := by
  obtain ⟨question, hquestion⟩ := c.script.exists_ask pending
  rw [handleMessage, hpending]
  dsimp only
  cases pending.kind with
  | text =>
      obtain ⟨message, hmessage⟩ := exists_answer (c := c) pending content world
      exact hmessage ▸ .one message
  | file =>
      cases attachments with
      | nil => exact .one _
      | cons url _ =>
          obtain ⟨message, hmessage⟩ := exists_answer (c := c) pending url world
          exact hmessage ▸ .one message
  | options => exact hquestion ▸ .one question
  | other name => exact hquestion ▸ .one question

/-- Free text, while no input is pending, that is answered with a reply that holds nothing. -/
inductive Mute (c : Conversation) (world : World κ) : Event → Prop where
  | reply {content : String} {attachments : List String}
      (pending : c.pending? world.store = none)
      (mutes : c.engine.Mutes content world.picker) : Mute c world (.message content attachments)

/-- Every event gets one or two messages, of which only the last can offer buttons, but for free
text that a hollow reply answers: nothing is said to that. -/
theorem handle_speaks (event : Event) (world : World κ) :
    (Spoken (c.handle event world).1 ∧ ¬ c.Mute world event) ∨
      ((c.handle event world).1 = [] ∧ c.Mute world event) := by
  cases event with
  | optIn =>
      refine .inl ⟨c.script.spoken_greeting, ?_⟩
      rintro ⟨⟩
  | message content attachments =>
      change (Spoken (c.handleMessage content attachments world).1 ∧ _) ∨
        ((c.handleMessage content attachments world).1 = [] ∧ _)
      cases hpending : c.pending? world.store with
      | some pending =>
          refine .inl ⟨spoken_handleMessage_of_pending hpending content attachments, ?_⟩
          rintro ⟨hnone, _⟩
          cases hpending.symm.trans hnone
      | none =>
          have hreply :
              c.handleMessage content attachments world = c.engine.reply content world := by
            rw [handleMessage, hpending]
          obtain ⟨hsilent, hspoken⟩ := c.engine.spoken_reply content world
          rw [hreply]
          by_cases hmutes : c.engine.Mutes content world.picker
          · exact .inr ⟨hsilent hmutes, .reply hpending hmutes⟩
          · refine .inl ⟨hspoken hmutes, ?_⟩
            rintro ⟨_, hmutes'⟩
            exact hmutes hmutes'
  | postback payload =>
      refine .inl ⟨spoken_handlePostback payload world, ?_⟩
      rintro ⟨⟩

/-- A bot with a reply that has only one part of an attachment. -/
def hushSource : String :=
  "<html><body><nav id=\"main\"/><template match=\"^x\"><reply type=\"image\"/></template>" ++
    "</body></html>"

example :
    (Script.compile hushSource "bot").toOption.map (fun script =>
      (handle ⟨⟨script, fun _ => .error .request, ""⟩, "s"⟩ (.message "xy" [])
        (⟨Store.inMemory, ⟨0⟩, []⟩ : World Session.Memory)).1) = some [] := by
  decide +kernel

end Conversation

end Colloquy
