import Colloquy.Proofs.Dialogue.Passage
import Mathlib.Data.List.Induction

/-!
Runs: a session that starts with nothing stored always stands somewhere in its script, at an input
that is asked if it is inside a form.  What every move keeps up holds after all events.
-/

namespace Colloquy

open Session (Keeper Store)

namespace Conversation

variable {κ : Type} {c : Conversation}

theorem shown_search (form : Form) (answers : Dict String) (position : Nat) :
    (c.search form answers position).2.Shown c.script := by
  obtain ⟨final, _, _, ⟨input, hinput, hshown, hend⟩ | ⟨_, hend⟩⟩ :=
    exists_search_end c form answers position
  · rw [hend]
    exact ⟨input, hinput, hshown⟩
  · rw [hend]
    trivial

theorem Moves.shown {store : Store κ} {event : Event} {standing next : Standing}
    {submissions : List Submission} (h : c.Moves store event standing submissions next)
    (hshown : standing.Shown c.script) : next.Shown c.script := by
  cases h with
  | rest quiet rejected => exact hshown
  | restart restarts => trivial
  | enter declared fresh => exact shown_search _ _ 0
  | answer pending accepted => exact shown_search _ _ _

variable [Keeper κ]

/-- The world after events, one after another. -/
def run (c : Conversation) (events : List Event) (world : World κ) : World κ :=
  events.foldl (fun world event => (c.handle event world).2) world

theorem run_append_singleton (events : List Event) (event : Event) (world : World κ) :
    c.run (events ++ [event]) world = (c.handle event (c.run events world)).2 := by
  simp [run]

/-- A property of what has come and where the session stands holds after all events if every move
keeps it up. -/
theorem exists_standing_run (hlegible : c.script.Legible) {start : World κ}
    (hstore : start.store.Healthy) (hempty : start.store.snapshot = ∅)
    {P : List Event → Standing → Prop} (hstart : P [] .outside)
    (hmoves : ∀ past event standing submissions next, (c.run past start).store.Healthy →
      c.Stands (c.run past start).store standing → standing.Shown c.script → P past standing →
      c.Moves (c.run past start).store event standing submissions next →
      P (past ++ [event]) next)
    (events : List Event) :
    (c.run events start).store.Healthy ∧ ∃ standing,
      c.Stands (c.run events start).store standing ∧ standing.Shown c.script ∧
        P events standing := by
  induction events using List.reverseRecOn with
  | nil =>
      refine ⟨hstore, .outside, ?_, trivial, hstart⟩
      change c.Stands start.store .outside
      rw [Stands, hempty]
      exact ⟨rfl, rfl⟩
  | append_singleton events event ih =>
      obtain ⟨hhealthy, standing, hstands, hshown, hholds⟩ := ih
      obtain ⟨submissions, next, hmove, effects, hsteps, _, hnext⟩ :=
        exists_moves_handle hlegible hhealthy hstands hshown event
      rw [run_append_singleton]
      exact ⟨hsteps.healthy hhealthy, next, hnext, hmove.shown hshown,
        hmoves events event standing submissions next hhealthy hstands hshown hholds hmove⟩

end Conversation

end Colloquy
