import Colloquy.Proofs.Dialogue.Agreement
import Colloquy.Proofs.Dialogue.Consistency
import Colloquy.Proofs.Script.WellFormed

/-!
Taking a form up again.  Asking ends with a delivery or at an input for which the session then
waits; once it waits for a visible input, taking a form up only asks for that input.
-/

namespace Colloquy

open Session (Keeper Store Write)

namespace Conversation

variable {κ : Type} {c : Conversation}

/-- The pending input is one that is asked. -/
structure Awaits (c : Conversation) (store : Store κ) (input : Input) : Prop where
  pending : c.pending? store = some input
  visible : c.isVisible input store = true

variable [Keeper κ] {world : World κ} {result : List Message × World κ}

/-- How asking in a world ends. -/
inductive Ends (c : Conversation) (world : World κ) (result : List Message × World κ) : Prop where
  /-- The session waits for what has been asked, and its answers are as they were. -/
  | waiting {input : Input} (awaits : c.Awaits result.2.store input)
      (asked : result.1 = c.script.ask input)
      (answers : result.2.store.snapshot.hashes = world.store.snapshot.hashes)
  | delivered {effects : List Effect} (steps : Steps c world effects result.2)
      (delivers : delivered effects ≠ [])

theorem Ends.advance {path : String} (hworld : world.store.Healthy)
    (h : c.Ends (c.advance path world).2 result) : c.Ends world result := by
  cases h with
  | waiting awaits asked answers =>
      refine .waiting awaits asked (answers.trans ?_)
      unfold Conversation.advance
      rw [World.store_write, hworld.snapshot_write]
      split <;> rfl
  | delivered steps delivers =>
      unfold Conversation.advance at steps
      split at steps
      · exact .delivered (.write (.delete c.keys.pointer) rfl steps) delivers
      · exact .delivered (.write (.set c.keys.pointer path) rfl steps) delivers

theorem ends_complete {last : Input} (howned : ∃ form, c.script.formOf? last = some form)
    (world : World κ) : c.Ends world (c.complete last world) := by
  obtain ⟨form, hform⟩ := howned
  obtain ⟨effects, hsteps⟩ := reaches_reset (c := c)
    (.refl (c.reset (world.note (.deliver (c.submission (c.answers world.store) form)))).2)
  rw [complete, hform]
  exact .delivered (.deliver rfl hsteps) (List.cons_ne_nil _ _)

theorem pending?_advance (hworld : world.store.Healthy) {path : String} (hpath : path ≠ "") :
    c.pending? (c.advance path world).2.store = c.script.input? path := by
  have hintact : (c.advance path world).2.store.broken = [] := (hworld.write _).intact
  have hvalue : (c.advance path world).2.store.snapshot.value c.keys.pointer = path := by
    simp [advance, hpath, hworld.snapshot_write]
  rw [pending?_of_intact hintact, hvalue, if_neg hpath]

section

variable (hlegible : c.script.Legible)

include hlegible

/-- An input of the script for which the pointer is moved is then the pending one. -/
theorem pending?_advance_of_mem (hworld : world.store.Healthy) {form : Form} {input : Input}
    (hform : form ∈ c.script.forms) (hinput : input ∈ form.inputs) :
    c.pending? (c.advance input.path world).2.store = some input := by
  rw [pending?_advance hworld (hlegible.path_ne_empty hform hinput),
    hlegible.paths.input?_of_mem hform hinput]

theorem ends_presentFrom {current : Input} (hworld : world.store.Healthy)
    (hpending : c.pending? world.store = some current) :
    c.Ends world (c.presentFrom current world) := by
  fun_induction c.presentFrom current world with
  | case1 current world hvisible => exact .waiting ⟨hpending, hvisible⟩ rfl rfl
  | case2 current world hhidden hnext =>
      obtain ⟨form, hform, hinput⟩ := exists_form_of_pending? hpending
      exact ends_complete (hlegible.named.exists_formOf? hform hinput) world
  | case3 current world hhidden next hnext hkept ih =>
      obtain ⟨form, hform, hinput⟩ := exists_form_of_next? hnext
      exact (ih (hworld.write _)
        (pending?_advance_of_mem hlegible hworld hform hinput)).advance hworld
  | case4 current world hhidden next hnext hlost =>
      exact absurd (World.write_of_healthy hworld _) hlost

/-- A form without inputs has only its title to show. -/
theorem ends_presentForm {form : Form} (hform : form ∈ c.script.forms)
    (hworld : world.store.Healthy) :
    c.presentForm form world = ([.text form.title], world) ∧ form.firstInput? = none ∨
      ∃ result, c.presentForm form world = (.text form.title :: result.1, result.2) ∧
        form.firstInput?.isSome ∧ c.Ends world result := by
  unfold presentForm
  cases hfirst : form.firstInput? with
  | none => exact .inl ⟨rfl, rfl⟩
  | some first =>
      right
      cases hpending : c.pending? world.store with
      | some pending => exact ⟨_, rfl, rfl, ends_presentFrom hlegible hworld hpending⟩
      | none =>
          have hinput : first ∈ form.inputs := List.mem_of_head? hfirst
          have hkept : (c.advance first.path world).1 = true := World.write_of_healthy hworld _
          have hends := ends_presentFrom hlegible (hworld.write _)
            (pending?_advance_of_mem hlegible hworld hform hinput)
          simp only [hkept, if_true]
          exact ⟨_, rfl, rfl, hends.advance hworld⟩

end

theorem presentForm_of_awaits {form : Form} {input : Input} (h : c.Awaits world.store input)
    (hfirst : form.firstInput?.isSome) :
    c.presentForm form world = (.text form.title :: c.script.ask input, world) := by
  obtain ⟨first, hfirst⟩ := Option.isSome_iff_exists.mp hfirst
  simp only [presentForm, hfirst, h.pending, presentFrom_of_visible h.visible]

/-- Whatever the store holds, a form that is taken up without being delivered can be taken up again:
the same is said, and nothing more is stored or delivered. -/
theorem presentForm_again {source fallbackId : String}
    (hcompiled : Script.compile source fallbackId = .ok c.script)
    (hpaths : c.script.DistinctPaths) {form : Form} (hform : form ∈ c.script.forms)
    {world : World κ} (hworld : world.store.Healthy)
    (hnothing : (world.turnOf (c.presentForm form world)).1.submissions = []) :
    let first := c.presentForm form world
    let second := c.presentForm form first.2
    (first.2.turnOf second).1 = ⟨first.1, []⟩ ∧ second.2.store = first.2.store ∧
      first.2.store.snapshot.hashes = world.store.snapshot.hashes := by
  have hlegible : c.script.Legible := ⟨hpaths, Script.compile_inputsNamed hcompiled⟩
  intro first second
  have hsame : second = first ∧
      first.2.store.snapshot.hashes = world.store.snapshot.hashes := by
    rcases ends_presentForm hlegible hform hworld with
      ⟨htitle, _⟩ | ⟨result, hresult, hinputs, hends⟩
    · have hfirst : first = ([.text form.title], world) := htitle
      exact ⟨by simp only [second, hfirst, htitle], by rw [hfirst]⟩
    · have hfirst : first = (.text form.title :: result.1, result.2) := hresult
      cases hends with
      | waiting awaits asked answers =>
          refine ⟨?_, by rw [hfirst, answers]⟩
          simp only [second, hfirst, presentForm_of_awaits awaits hinputs, asked]
      | delivered steps delivers =>
          rw [hresult] at hnothing
          exact absurd (steps.delivered_drop.symm.trans hnothing) delivers
  obtain ⟨hsecond, hanswers⟩ := hsame
  refine ⟨?_, ?_, hanswers⟩
  · simp [World.turnOf, hsecond]
  · rw [hsecond]

theorem presentForm_again_ticket :
    let first := ticketTalk.presentForm Script.ticketForm strayTicket
    let second := ticketTalk.presentForm Script.ticketForm first.2
    (first.2.turnOf second).1 = ⟨first.1, []⟩ ∧ second.2.store = first.2.store ∧
      first.2.store.snapshot.hashes = strayTicket.store.snapshot.hashes :=
  presentForm_again (c := ticketTalk) Script.compile_ticketSource (by decide) (by decide)
    ⟨rfl, Session.reliable_memory _⟩ (by decide +kernel)

end Conversation

end Colloquy
