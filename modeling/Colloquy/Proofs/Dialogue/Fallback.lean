import Colloquy.Proofs.Dialogue.Consistency
import Colloquy.Proofs.Dialogue.Rounds
import Colloquy.Proofs.Script.WellFormed

/-!
Conversations in which something else than usual is done when the entry menu, or the form of a
finished input, is missing.  A branch that is never taken can do anything.
-/

namespace Colloquy

open Session (Keeper)

/-- A fallback does as usual in every case in which it is needed. -/
structure Fallback.Fits {κ : Type} (fallback : Fallback κ) (c : Conversation) : Prop where
  menu : c.script.mainFlow? = none → fallback.menu = c.errorMessages
  buttons : c.script.mainFlow? = none → fallback.buttons = []
  close : ∀ form ∈ c.script.forms, ∀ input ∈ form.inputs, c.script.formOf? input = none →
    ∀ world, fallback.close input world = (c.errorMessages, world)

theorem Script.WellFormed.fits {κ : Type} {c : Conversation} (h : c.script.WellFormed)
    (fallback : Fallback κ) : fallback.Fits c := by
  obtain ⟨flow, hflow, _⟩ := h.mainFlow
  refine ⟨fun hnone => ?_, fun hnone => ?_, fun form hform input hinput hnone => ?_⟩
  · cases hflow.symm.trans hnone
  · cases hflow.symm.trans hnone
  · obtain ⟨owner, howner⟩ := h.owned form hform input hinput
    cases howner.symm.trans hnone

namespace Fallback.Fits

variable {κ : Type} [Keeper κ] {c : Conversation} {fallback : Fallback κ}

section

variable (h : fallback.Fits c)

include h

omit [Keeper κ] in
theorem presentMain_eq : c.script.presentMain fallback.menu = c.script.presentMain := by
  unfold Script.presentMain
  cases hmain : c.script.mainFlow? with
  | none => exact h.menu hmain
  | some flow => rfl

omit [Keeper κ] in
theorem mainMenu_eq : c.script.mainMenu fallback.buttons = c.script.mainMenu := by
  unfold Script.mainMenu
  cases hmain : c.script.mainFlow? with
  | none => exact h.buttons hmain
  | some flow => rfl

omit [Keeper κ] in
theorem greeting_eq : c.script.greeting fallback.menu = c.script.greeting := by
  unfold Script.greeting
  rw [h.presentMain_eq]

theorem complete_eq {last : Input} (hlast : ∃ form ∈ c.script.forms, last ∈ form.inputs)
    (world : World κ) : c.complete last world fallback = c.complete last world := by
  obtain ⟨form, hform, hinput⟩ := hlast
  unfold Conversation.complete
  cases howner : c.script.formOf? last with
  | none => exact h.close form hform last hinput howner world
  | some owner => rfl

theorem presentFrom_eq {current : Input}
    (hcurrent : ∃ form ∈ c.script.forms, current ∈ form.inputs) (world : World κ) :
    c.presentFrom current world fallback = c.presentFrom current world := by
  fun_induction c.presentFrom current world fallback with
  | case1 current world hvisible => rw [Conversation.presentFrom_of_visible hvisible]
  | case2 current world hhidden hnext =>
      rw [Conversation.presentFrom_of_hidden hhidden, Conversation.proceed_of_none hnext,
        h.complete_eq hcurrent]
  | case3 current world hhidden next hnext hkept ih =>
      rw [Conversation.presentFrom_of_hidden hhidden, Conversation.proceed_of_kept hnext hkept,
        ih (Conversation.exists_form_of_next? hnext)]
  | case4 current world hhidden next hnext hlost =>
      rw [Conversation.presentFrom_of_hidden hhidden, Conversation.proceed_of_lost hnext hlost]

theorem presentForm_eq {form : Form} (hform : form ∈ c.script.forms) (world : World κ) :
    c.presentForm form world fallback = c.presentForm form world := by
  unfold Conversation.presentForm
  cases hfirst : form.firstInput? with
  | none => rfl
  | some first =>
      cases hpending : c.pending? world.store with
      | some pending =>
          simp only [h.presentFrom_eq (Conversation.exists_form_of_pending? hpending)]
      | none => simp only [h.presentFrom_eq ⟨form, hform, List.mem_of_head? hfirst⟩]

theorem answer_eq {input : Input} (hinput : ∃ form ∈ c.script.forms, input ∈ form.inputs)
    (value : String) (world : World κ) :
    c.answer input value world fallback = c.answer input value world := by
  unfold Conversation.answer
  dsimp only
  cases hnext : c.next? (c.record input.path value world).2.store with
  | none => exact h.complete_eq hinput _
  | some next => simp only [h.presentFrom_eq (Conversation.exists_form_of_next? hnext)]

theorem handleMessage_eq (content : String) (attachments : List String) (world : World κ) :
    c.handleMessage content attachments world fallback =
      c.handleMessage content attachments world := by
  unfold Conversation.handleMessage
  cases hpending : c.pending? world.store with
  | none => rfl
  | some pending =>
      have hform := Conversation.exists_form_of_pending? hpending
      dsimp only
      cases pending.kind with
      | text => exact h.answer_eq hform content world
      | file =>
          cases attachments with
          | nil => rfl
          | cons url _ => exact h.answer_eq hform url world
      | options => rfl
      | other name => rfl

theorem handleOption_eq (token : Routing.Token) (world : World κ) :
    c.handleOption token world fallback = c.handleOption token world := by
  unfold Conversation.handleOption
  cases hpending : c.pending? world.store with
  | none => exact congrArg (·, world) h.presentMain_eq
  | some pending =>
      have hform := Conversation.exists_form_of_pending? hpending
      dsimp only
      cases pending.kind with
      | options =>
          dsimp only
          split
          · rfl
          · cases Conversation.selected? pending token with
            | some choice => exact h.answer_eq hform choice.key world
            | none => rfl
      | text => rfl
      | file => rfl
      | other name => rfl

theorem follow_eq (token : Routing.Token) (world : World κ) :
    c.follow token world fallback = c.follow token world := by
  unfold Conversation.follow
  cases token.scheme with
  | nav => rfl
  | form =>
      cases hform : c.script.form? token.host with
      | none => rfl
      | some form => exact h.presentForm_eq (Script.mem_of_form? hform).1 world
  | answer => exact h.handleOption_eq token world
  | other name => rfl

theorem handlePostback_eq (payload : String) (world : World κ) :
    c.handlePostback payload world fallback = c.handlePostback payload world := by
  unfold Conversation.handlePostback
  by_cases hpayload : payload = Conversation.getStarted
  · rw [if_pos hpayload, if_pos hpayload, h.greeting_eq]
    rfl
  · rw [if_neg hpayload, if_neg hpayload]
    cases Routing.Token.parse payload with
    | error fault => rfl
    | ok token => exact h.follow_eq token _

theorem handle_eq (event : Event) (world : World κ) :
    c.handle event world fallback = c.handle event world := by
  cases event with
  | optIn => exact congrArg (·, world) h.greeting_eq
  | message content attachments => exact h.handleMessage_eq content attachments world
  | postback payload => exact h.handlePostback_eq payload world

end

end Fallback.Fits

namespace Conversation

variable {κ : Type} [Keeper κ] {c : Conversation}

/-- A compiled script is in order, so whatever the store holds and whichever of its operations
fail, nothing depends on what would be done in place of a missing entry flow or form. -/
theorem compiled_needs_no_fallback {source fallbackId : String}
    (hcompiled : Script.compile source fallbackId = .ok c.script) :
    c.script.WellFormed ∧ ∀ fallback : Fallback κ,
      c.script.presentMain fallback.menu = c.script.presentMain ∧
        c.script.mainMenu fallback.buttons = c.script.mainMenu ∧
        ∀ event world, c.handle event world fallback = c.handle event world := by
  have hwell : c.script.WellFormed := Script.compile_wellFormed hcompiled
  refine ⟨hwell, fun fallback => ?_⟩
  have hfits : fallback.Fits c := hwell.fits fallback
  exact ⟨hfits.presentMain_eq, hfits.mainMenu_eq, hfits.handle_eq⟩

theorem compiled_needs_no_fallback_ticket :
    ticketTalk.script.WellFormed ∧ ∀ fallback : Fallback Session.Memory,
      ticketTalk.script.presentMain fallback.menu = ticketTalk.script.presentMain ∧
        ticketTalk.script.mainMenu fallback.buttons = ticketTalk.script.mainMenu ∧
        ∀ event world, ticketTalk.handle event world fallback = ticketTalk.handle event world :=
  compiled_needs_no_fallback (c := ticketTalk) Script.compile_ticketSource

end Conversation

end Colloquy
