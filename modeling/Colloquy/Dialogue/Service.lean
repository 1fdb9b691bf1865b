import Colloquy.Dialogue.Conversation

/-!
Several bots on one store.  Each bot has a picker of its own; all else is shared.
-/

namespace Colloquy

open Session (Keeper Store)

structure Service (κ : Type) where
  store : Store κ
  bots : List (Engine × Picker)
  /-- What has been done, earliest first. -/
  log : List Effect := []

namespace Service

variable {κ : Type}

def act {α : Type} (service : Service κ) (position : Nat) (session : String)
    (step : Conversation → World κ → α × World κ) : Option (α × Service κ) :=
  service.bots[position]?.map fun (engine, picker) =>
    let (result, world) := step ⟨engine, session⟩ ⟨service.store, picker, service.log⟩
    (result, ⟨world.store, service.bots.set position (engine, world.picker), world.log⟩)

def handle [Keeper κ] (service : Service κ) (position : Nat) (session : String) (event : Event) :
    Option (List Message × Service κ) :=
  service.act position session (·.handle event)

end Service

end Colloquy
