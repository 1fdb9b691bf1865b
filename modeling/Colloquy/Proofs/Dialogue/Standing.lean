import Colloquy.Proofs.Dialogue.Turn

/-!
Where a session stands in its script: outside all forms, or at a position of one form with the
answers given so far.  The way through a form, which goes from one stored pointer to the next, comes
down to a search in the list of the form's inputs.
-/

namespace Colloquy

open Session (Keeper Snapshot Store Write)

inductive Standing where
  | outside
  | inside (form : Form) (position : Nat) (answers : Dict String)

namespace Conversation

variable {κ : Type} [Keeper κ] {c : Conversation} {form : Form} {position : Nat} {input : Input}
  {answers : Dict String} {store : Store κ} {world : World κ}

/-- The store holds what belongs to a standing.  A form in which a session can stand is the one that
its identifier leads to. -/
def Stands (c : Conversation) (store : Store κ) : Standing → Prop
  | .outside =>
    store.snapshot.values.get? c.keys.pointer = none ∧
      store.snapshot.hashes.get? c.keys.answers = none
  | .inside form position answers =>
    c.script.form? form.id = some form ∧
      (∃ input, form.inputs[position]? = some input ∧
        store.snapshot.values.get? c.keys.pointer = some input.path) ∧
      store.snapshot.hash c.keys.answers = answers

/-- What becomes of a session that looks for the next input to ask: `inputs` are those of its form
from a position on. -/
def settle (c : Conversation) (form : Form) (answers : Dict String) (position : Nat) :
    List Input → Turn × Standing
  | [] => (⟨[.text form.submit], [c.submission answers form]⟩, .outside)
  | input :: inputs =>
    if c.script.shows answers input then
      (⟨c.script.ask input, []⟩, .inside form position answers)
    else c.settle form answers (position + 1) inputs

def search (c : Conversation) (form : Form) (answers : Dict String) (position : Nat) :
    Turn × Standing :=
  c.settle form answers position (form.inputs.drop position)

theorem search_of_input (hinput : form.inputs[position]? = some input) :
    c.search form answers position =
      if c.script.shows answers input then
        (⟨c.script.ask input, []⟩, .inside form position answers)
      else c.search form answers (position + 1) := by
  obtain ⟨hlt, hget⟩ := List.getElem?_eq_some_iff.mp hinput
  rw [search, List.drop_eq_getElem_cons hlt, hget, settle, search]

theorem search_of_end (hend : form.inputs[position]? = none) :
    c.search form answers position =
      (⟨[.text form.submit], [c.submission answers form]⟩, .outside) := by
  rw [search, List.drop_eq_nil_of_le (List.getElem?_eq_none_iff.mp hend), settle]

/-- The search passes hidden inputs and ends at the first one that is shown, or else behind the last
one. -/
theorem exists_search_end (c : Conversation) (form : Form) (answers : Dict String)
    (position : Nat) :
    ∃ final, position ≤ final ∧
      (∀ passed, position ≤ passed → passed < final → ∀ input, form.inputs[passed]? = some input →
        ¬ c.script.shows answers input = true) ∧
      ((∃ input, form.inputs[final]? = some input ∧ c.script.shows answers input = true ∧
          c.search form answers position =
            (⟨c.script.ask input, []⟩, .inside form final answers)) ∨
        (form.inputs[final]? = none ∧
          c.search form answers position =
            (⟨[.text form.submit], [c.submission answers form]⟩, .outside))) := by
  induction hn : form.inputs.length - position generalizing position with
  | zero =>
      have hend : form.inputs[position]? = none := List.getElem?_eq_none_iff.mpr (by omega)
      refine ⟨position, Nat.le_refl position, ?_, .inr ⟨hend, search_of_end hend⟩⟩
      intro passed hle hlt
      omega
  | succ n ih =>
      have hlt : position < form.inputs.length := by omega
      have hinput : form.inputs[position]? = some form.inputs[position] :=
        List.getElem?_eq_getElem hlt
      by_cases hshown : c.script.shows answers form.inputs[position] = true
      · refine ⟨position, Nat.le_refl position, ?_, .inl ⟨_, hinput, hshown, ?_⟩⟩
        · intro passed hle hlt
          omega
        · rw [search_of_input hinput, if_pos hshown]
      · obtain ⟨final, hle, hpassed, hend⟩ := ih (position + 1) (by omega)
        rw [search_of_input hinput, if_neg hshown]
        refine ⟨final, by omega, ?_, hend⟩
        intro passed hfrom hto input hat
        rcases Nat.eq_or_lt_of_le hfrom with rfl | hlater
        · obtain rfl : form.inputs[position] = input := Option.some.inj (hinput.symm.trans hat)
          exact hshown
        · exact hpassed passed hlater hto input hat

/-- From a world, the result is as a turn tells and leaves the session at a standing. -/
def Settles (c : Conversation) (world : World κ) (result : List Message × World κ)
    (outcome : Turn × Standing) : Prop :=
  result.1 = outcome.1.messages ∧
    (∃ effects, Steps c world effects result.2 ∧ delivered effects = outcome.1.submissions) ∧
    c.Stands result.2.store outcome.2

omit [Keeper κ] in
theorem pending?_of_outside (hworld : store.broken = []) (h : c.Stands store .outside) :
    c.pending? store = none := by
  rw [pending?_of_intact hworld, Snapshot.value, h.1]
  rfl

theorem Settles.write (change : Write) {result : List Message × World κ}
    {outcome : Turn × Standing} (own : change.Concerns c.keys)
    (h : c.Settles (world.write change).2 result outcome) : c.Settles world result outcome := by
  obtain ⟨hmessages, ⟨effects, hsteps, hdelivered⟩, hstands⟩ := h
  exact ⟨hmessages, ⟨_, .write change own hsteps, hdelivered⟩, hstands⟩

theorem stands_record (hworld : world.store.Healthy)
    (h : c.Stands world.store (.inside form position answers)) (path value : String) :
    c.Stands (c.record path value world).2.store
      (.inside form position (answers.insert path value)) := by
  refine ⟨h.1, ?_, ?_⟩
  · simpa [record, hworld.snapshot_write, Write.apply] using h.2.1
  · simp [record, hworld.snapshot_write, h.2.2]

theorem settles_finalize (hworld : world.store.Healthy) (reached : Form) :
    c.Settles world ([.text reached.submit], c.finalize reached world)
      (⟨[.text reached.submit],
        [c.submission (world.store.snapshot.hash c.keys.answers) reached]⟩, .outside) := by
  refine ⟨rfl, ?_, ?_⟩
  · refine ⟨_, .deliver rfl (.write (.deleteHash c.keys.answers) rfl
      (.write (.delete c.keys.pointer) rfl (.refl _))), ?_⟩
    rw [answers_of_intact hworld.intact]
    rfl
  · simp [finalize, advance, Stands, hworld.snapshot_write, (hworld.write _).snapshot_write,
      Write.apply]

section

variable (hlegible : c.script.Legible)

include hlegible

omit [Keeper κ] in
theorem pending?_of_inside (hstore : store.broken = [])
    (h : c.Stands store (.inside form position answers))
    (hinput : form.inputs[position]? = some input) : c.pending? store = some input := by
  obtain ⟨hform, ⟨pending, hpending, hpointer⟩, _⟩ := h
  obtain rfl : input = pending := Option.some.inj (hinput.symm.trans hpending)
  have hmem := (Script.mem_of_form? hform).1
  have hvalue : store.snapshot.value c.keys.pointer = input.path := by
    rw [Snapshot.value, hpointer, Option.getD_some]
  rw [pending?_of_intact hstore, hvalue,
    if_neg (hlegible.path_ne_empty hmem (List.mem_of_getElem? hinput)),
    hlegible.paths.input?_eq hmem hinput]

omit [Keeper κ] in
theorem exists_inside_of_pending? (hstore : store.broken = []) {standing : Standing}
    (h : c.Stands store standing) (hpending : c.pending? store = some input) :
    ∃ form position answers, standing = .inside form position answers ∧
      form.inputs[position]? = some input := by
  cases standing with
  | outside => simp [pending?_of_outside hstore h] at hpending
  | inside form position answers =>
      obtain ⟨waiting, hwaiting, _⟩ := h.2.1
      rw [pending?_of_inside hlegible hstore h hwaiting] at hpending
      obtain rfl : waiting = input := Option.some.inj hpending
      exact ⟨form, position, answers, rfl, hwaiting⟩

omit [Keeper κ] in
theorem next?_of_inside (hstore : store.broken = [])
    (h : c.Stands store (.inside form position answers)) :
    c.next? store = form.inputs[position + 1]? := by
  obtain ⟨input, hinput, _⟩ := h.2.1
  rw [next?, pending?_of_inside hlegible hstore h hinput, Option.bind_some,
    hlegible.paths.nextInput?_eq (Script.mem_of_form? h.1).1 hinput]

theorem stands_advance (hworld : world.store.Healthy)
    (h : c.Stands world.store (.inside form position answers)) {next : Input}
    (hnext : form.inputs[position + 1]? = some next) :
    c.Stands (c.advance next.path world).2.store (.inside form (position + 1) answers) := by
  have hpath := hlegible.path_ne_empty (Script.mem_of_form? h.1).1 (List.mem_of_getElem? hnext)
  refine ⟨h.1, ⟨next, hnext, ?_⟩, ?_⟩
  · simp [advance, hpath, hworld.snapshot_write, Write.apply]
  · simpa [advance, hpath, hworld.snapshot_write] using h.2.2

theorem settles_proceed_of (hworld : world.store.Healthy)
    (h : c.Stands world.store (.inside form position answers))
    (hinput : form.inputs[position]? = some input)
    (hrest : ∀ next (after : World κ), form.inputs[position + 1]? = some next →
      after.store.Healthy →
      c.Stands after.store (.inside form (position + 1) answers) →
      c.Settles after (c.presentFrom next after)
        (c.search form answers (position + 1))) :
    c.Settles world (c.proceed input world) (c.search form answers (position + 1)) := by
  have hnext := next?_of_inside hlegible hworld.intact h
  cases hsuccessor : form.inputs[position + 1]? with
  | none =>
      rw [hsuccessor] at hnext
      rw [proceed_of_none hnext, complete,
        hlegible.formOf?_eq h.1 (List.mem_of_getElem? hinput), search_of_end hsuccessor, ← h.2.2]
      exact settles_finalize hworld form
  | some next =>
      rw [hsuccessor] at hnext
      have hkept : (c.advance next.path world).1 = true := World.write_of_healthy hworld _
      rw [proceed_of_kept hnext hkept]
      have hmoved := hrest next (c.advance next.path world).2 hsuccessor (hworld.write _)
        (stands_advance hlegible hworld h hsuccessor)
      refine Settles.write _ ?_ hmoved
      split <;> rfl

/-- Asking from an input on is a search for the first input that is shown. -/
theorem settles_presentFrom (hworld : world.store.Healthy)
    (h : c.Stands world.store (.inside form position answers))
    (hinput : form.inputs[position]? = some input) :
    c.Settles world (c.presentFrom input world) (c.search form answers position) := by
  -- By induction on the number of inputs from the position on.
  induction hn : form.inputs.length - position generalizing position input world with
  | zero =>
      have hlt := (List.getElem?_eq_some_iff.mp hinput).1
      omega
  | succ n ih =>
      have hvisible := isVisible_of_intact (c := c) hworld.intact input
      rw [h.2.2] at hvisible
      rw [search_of_input hinput]
      by_cases hshown : c.script.shows answers input = true
      · rw [if_pos hshown, presentFrom_of_visible (hvisible.trans hshown)]
        exact ⟨rfl, ⟨[], .refl world, rfl⟩, h⟩
      · rw [if_neg hshown, presentFrom_of_hidden (hvisible ▸ hshown)]
        refine settles_proceed_of hlegible hworld h hinput fun next after hnext hafter hstands => ?_
        exact ih hafter hstands hnext (by omega)

theorem settles_answer (hworld : world.store.Healthy)
    (h : c.Stands world.store (.inside form position answers))
    (hinput : form.inputs[position]? = some input) (value : String) :
    c.Settles world (c.answer input value world)
      (c.search form (answers.insert input.path value) (position + 1)) := by
  rw [answer_eq_proceed]
  have hrecorded := stands_record hworld h input.path value
  apply Settles.write (.setHash c.keys.answers input.path value) rfl
  refine settles_proceed_of hlegible (hworld.write _) hrecorded hinput
    fun next after hnext hafter hstands => ?_
  exact settles_presentFrom hlegible hafter hstands hnext

end

end Conversation

end Colloquy
