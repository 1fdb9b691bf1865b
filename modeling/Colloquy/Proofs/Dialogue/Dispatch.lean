import Colloquy.Proofs.Dialogue.Passage

/-!
What an event comes to, whatever the store holds and whichever of its operations fail: an answer to
the pending input, a form taken up, or nothing that touches the store.
-/

namespace Colloquy

open Session (Keeper Store)

namespace Conversation

variable {κ : Type} [Keeper κ] {c : Conversation} {world : World κ}

/-- The world that an event is taken in, once it has made the session start over if it asks to. -/
def outset (c : Conversation) (event : Event) (world : World κ) : World κ :=
  if event.restarts then (c.reset world).2 else world

theorem outset_of_quiet {event : Event} (h : event.restarts = false) (world : World κ) :
    c.outset event world = world := by
  simp [outset, h]

/-- What an event comes to from the world that it is taken in, with the answer that it gives. -/
inductive Comes (c : Conversation) (start : World κ) :
    Option (Input × String) → List Message × World κ → Prop where
  | answer {input : Input} (value : String) (pending : c.pending? start.store = some input) :
      Comes c start (some (input, value)) (c.answer input value start)
  | present {form : Form} (declared : c.script.form? form.id = some form) :
      Comes c start none (c.presentForm form start)
  | idle {result : List Message × World κ} (idles : c.Idles start result.2) :
      Comes c start none result

theorem handleMessage_comes (content : String) (attachments : List String) (world : World κ) :
    c.Comes world (c.written? content attachments world.store)
      (c.handleMessage content attachments world) := by
  cases hwritten : c.written? content attachments world.store with
  | none => exact .idle (idles_handleMessage hwritten)
  | some answer =>
      rw [handleMessage_of_written hwritten]
      exact .answer answer.2 (pending?_of_written? hwritten)

theorem handleOption_comes (token : Routing.Token) (world : World κ) :
    c.Comes world (c.chosen? token world.store) (c.handleOption token world) := by
  cases hchosen : c.chosen? token world.store with
  | none =>
      apply Comes.idle
      rw [rests_handleOption hchosen]
      exact .refl world
  | some answer =>
      rw [handleOption_of_chosen hchosen]
      exact .answer answer.2 (pending?_of_chosen? hchosen)

theorem follow_comes (token : Routing.Token) (world : World κ) :
    c.Comes world (if token.scheme = .answer then c.chosen? token world.store else none)
      (c.follow token world) := by
  unfold follow
  cases hscheme : token.scheme with
  | nav =>
      simp only [reduceCtorEq, if_false]
      split <;> exact .idle (.refl world)
  | form =>
      simp only [reduceCtorEq, if_false]
      split
      · next form hfound => exact .present (Script.form?_id hfound)
      · exact .idle (.refl world)
  | answer => exact handleOption_comes token world
  | other name =>
      simp only [reduceCtorEq, if_false]
      exact .idle (.refl world)

theorem handlePostback_comes (payload : String) (world : World κ) :
    ∃ answer?, (Event.restarts (.postback payload) = false →
        answer? = c.accepted? (.postback payload) world.store) ∧
      c.Comes (c.outset (.postback payload) world) answer? (c.handlePostback payload world) := by
  unfold handlePostback
  split
  · next hstarted =>
    rw [outset_of_quiet (by simp [Event.restarts, hstarted])]
    exact ⟨none, fun _ => by simp [accepted?, hstarted], .idle (.refl world)⟩
  · next hstarted =>
    split
    · next fault hparse =>
      rw [outset_of_quiet (by simp [Event.restarts, hparse])]
      exact ⟨none, fun _ => by simp [accepted?, hstarted, hparse], .idle (.refl world)⟩
    · next token hparse =>
      have hrestarts : Event.restarts (.postback payload) = token.requestsReset := by
        simp [Event.restarts, hstarted, hparse]
      have hcomes := follow_comes (c := c) token (c.outset (.postback payload) world)
      rw [outset, hrestarts] at hcomes
      rw [outset, hrestarts]
      refine ⟨_, fun hquiet => ?_, hcomes⟩
      simp [accepted?, hstarted, hparse, hquiet]

theorem handle_comes (event : Event) (world : World κ) :
    ∃ answer?, (event.restarts = false → answer? = c.accepted? event world.store) ∧
      c.Comes (c.outset event world) answer? (c.handle event world) := by
  cases event with
  | optIn => exact ⟨none, fun _ => rfl, .idle (.refl world)⟩
  | message content attachments =>
      exact ⟨_, fun _ => rfl, handleMessage_comes content attachments world⟩
  | postback payload => exact handlePostback_comes payload world

/-- An event that does not start over comes to the answer that is accepted from it. -/
theorem handle_comes_of_quiet {event : Event} (h : event.restarts = false) (world : World κ) :
    c.Comes world (c.accepted? event world.store) (c.handle event world) := by
  obtain ⟨answer?, hanswer, hcomes⟩ := handle_comes (c := c) event world
  rw [outset_of_quiet h, hanswer h] at hcomes
  exact hcomes

end Conversation

end Colloquy
