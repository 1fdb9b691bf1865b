import Colloquy.Proofs.Dialogue.Run

/-!
The pointer and the answers of a session always go together: both are missing, or the answers are
those of inputs of one form that stand before the pending one.
-/

namespace Colloquy

open Session (Keeper Store)

/-- Only inputs of the form that stand before the position are answered. -/
def Form.AnswersBelow (form : Form) (answers : Dict String) (position : Nat) : Prop :=
  ∀ path ∈ answers.keys, ∃ earlier < position, ∃ input,
    form.inputs[earlier]? = some input ∧ input.path = path

theorem Form.AnswersBelow.mono {form : Form} {answers : Dict String} {position later : Nat}
    (h : form.AnswersBelow answers position) (hle : position ≤ later) :
    form.AnswersBelow answers later := by
  intro path hpath
  obtain ⟨earlier, hlt, hinput⟩ := h path hpath
  exact ⟨earlier, by omega, hinput⟩

theorem Form.answersBelow_empty (form : Form) (position : Nat) :
    form.AnswersBelow ∅ position := by
  intro path hpath
  cases hpath

theorem Form.AnswersBelow.insert {form : Form} {answers : Dict String} {position : Nat}
    {input : Input} (h : form.AnswersBelow answers position)
    (hinput : form.inputs[position]? = some input) (value : String) :
    form.AnswersBelow (answers.insert input.path value) (position + 1) := by
  intro path hpath
  by_cases heq : input.path = path
  · exact ⟨position, by omega, input, hinput, heq⟩
  · rw [Dict.mem_keys_iff, Dict.get?_insert, if_neg heq, ← Dict.mem_keys_iff] at hpath
    exact h.mono (Nat.le_succ position) path hpath

/-- A session has answered only inputs before the one at which it stands. -/
def Standing.Answered : Standing → Prop
  | .outside => True
  | .inside form position answers => form.AnswersBelow answers position

namespace Conversation

variable {κ : Type} {c : Conversation} {form : Form} {answers : Dict String} {position : Nat}

theorem answered_search (h : form.AnswersBelow answers position) :
    (c.search form answers position).2.Answered := by
  obtain ⟨final, hle, _, ⟨input, _, _, hend⟩ | ⟨_, hend⟩⟩ :=
    exists_search_end c form answers position
  · rw [hend]
    exact h.mono hle
  · rw [hend]
    trivial

theorem Moves.answered {store : Store κ} {event : Event} {standing next : Standing}
    {submissions : List Submission} (h : c.Moves store event standing submissions next)
    (hanswered : standing.Answered) : next.Answered := by
  cases h with
  | rest quiet rejected => exact hanswered
  | restart restarts => trivial
  | enter declared fresh => exact answered_search (Form.answersBelow_empty _ 0)
  | answer pending accepted => exact answered_search (hanswered.insert pending _)

variable [Keeper κ]

/-- The session waits for the answer to the input at a position of a form. -/
structure WaitsAt (c : Conversation) (store : Store κ) (form : Form) (position : Nat)
    (input : Input) : Prop where
  declared : form ∈ c.script.forms
  placed : form.inputs[position]? = some input
  pointer : store.snapshot.values.get? c.keys.pointer = some input.path
  answered : form.AnswersBelow (store.snapshot.hash c.keys.answers) position
  visible : c.isVisible input store = true

/-- After any events, either nothing is stored for the session, or it waits for the answer to a
visible input, and has answered only inputs before that one in the same form. -/
theorem run_outside_or_waiting {source fallbackId : String}
    (hcompiled : Script.compile source fallbackId = .ok c.script)
    (hpaths : c.script.DistinctPaths) (start : World κ) (hstore : start.store.Healthy)
    (hempty : start.store.snapshot = ∅) (events : List Event) :
    let store := (c.run events start).store
    Xor (store.snapshot.values.get? c.keys.pointer = none ∧
        store.snapshot.hashes.get? c.keys.answers = none)
      (∃ form position input, c.WaitsAt store form position input) := by
  have hlegible : c.script.Legible := ⟨hpaths, Script.compile_inputsNamed hcompiled⟩
  obtain ⟨hhealthy, standing, hstands, hshown, hanswered⟩ :=
    exists_standing_run hlegible hstore hempty (P := fun _ standing => standing.Answered) trivial
      (fun _ _ _ _ _ _ _ _ hanswered hmove => hmove.answered hanswered) events
  cases standing with
  | outside =>
      refine .inl ⟨hstands, ?_⟩
      rintro ⟨form, position, input, hwaits⟩
      have hnone := hstands.1
      rw [hwaits.pointer] at hnone
      cases hnone
  | inside form position answers =>
      obtain ⟨hform, ⟨input, hinput, hpointer⟩, hanswers⟩ := hstands
      obtain ⟨shown, hshown, hvisible⟩ := hshown
      obtain rfl : input = shown := Option.some.inj (hinput.symm.trans hshown)
      refine .inr ⟨⟨form, position, input, (Script.mem_of_form? hform).1, hinput, hpointer,
        hanswers ▸ hanswered, ?_⟩, fun hnone => ?_⟩
      · rw [isVisible_of_intact hhealthy.intact, hanswers, hvisible]
      · rw [hpointer] at hnone
        cases hnone.1

def ticketTalk : Conversation := ⟨ticketEngine "bot", "s"⟩

def ticketStart : World Session.Memory := { store := .inMemory, picker := ⟨0⟩ }

def ticketEvents : List Event := [.postback "form://f", .message "1" []]

theorem run_outside_or_waiting_ticket :
    let store := (ticketTalk.run ticketEvents ticketStart).store
    Xor (store.snapshot.values.get? ticketTalk.keys.pointer = none ∧
        store.snapshot.hashes.get? ticketTalk.keys.answers = none)
      (∃ form position input, ticketTalk.WaitsAt store form position input) :=
  run_outside_or_waiting (c := ticketTalk) Script.compile_ticketSource (by decide) ticketStart
    Session.Store.healthy_inMemory rfl ticketEvents

end Conversation

end Colloquy
