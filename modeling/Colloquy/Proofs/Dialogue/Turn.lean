import Colloquy.Proofs.Dialogue.Alike
import Colloquy.Proofs.Script.Compiled

/-!
Turns: what an event brings about for the one who talks with a bot.
-/

namespace Colloquy

open Session (Keeper Store)

/-- What is said and what is delivered in reply to one event. -/
structure Turn where
  messages : List Message
  submissions : List Submission
deriving DecidableEq

def Effect.submission? : Effect → Option Submission
  | .deliver submission => some submission
  | _ => none

def delivered (effects : List Effect) : List Submission := effects.filterMap Effect.submission?

@[simp] theorem delivered_append (effects more : List Effect) :
    delivered (effects ++ more) = delivered effects ++ delivered more :=
  List.filterMap_append

theorem World.submissions_eq {κ : Type} (world : World κ) :
    world.submissions = delivered world.log := rfl

namespace Conversation

variable {κ ι : Type} [Keeper κ] [Keeper ι] {c : Conversation}

def turn (c : Conversation) (event : Event) (world : World κ) : Turn × World κ :=
  let (messages, after) := c.handle event world
  (⟨messages, (delivered after.log).drop (delivered world.log).length⟩, after)

theorem Steps.delivered_drop {world after : World κ} {effects : List Effect}
    (h : Steps c world effects after) :
    (delivered after.log).drop (delivered world.log).length = delivered effects := by
  rw [h.log, delivered_append, List.drop_left]

/-- An event leads from alike worlds to the same turn, unless a change is lost. -/
theorem Alike.turn {first : World κ} {second : World ι} (h : Alike c first.store second.store)
    (event : Event) :
    ∃ effects, Steps c first effects (c.turn event first).2 ∧ (Failed effects ∨
      Steps c second effects (c.turn event second).2 ∧
      (c.turn event first).1.submissions = (c.turn event second).1.submissions ∧
      (c.script.SingleReplies → (c.turn event first).1 = (c.turn event second).1)) := by
  obtain ⟨effects, hfirst, hrest⟩ := h.parallel_handle event
  refine ⟨effects, hfirst, hrest.imp_right fun ⟨hsecond, hmessages⟩ => ?_⟩
  have hsubmissions :
      (c.turn event first).1.submissions = (c.turn event second).1.submissions :=
    hfirst.delivered_drop.trans hsecond.delivered_drop.symm
  refine ⟨hsecond, hsubmissions, fun hsingle => ?_⟩
  simp only [Conversation.turn, Turn.mk.injEq]
  exact ⟨hmessages hsingle, hsubmissions⟩

end Conversation

/-- A bot with the form for tickets and without a composer that answers. -/
def ticketEngine (id : String) : Engine where
  script := { Script.ticketScript with id }
  composer := fun _ => .error .request

end Colloquy
