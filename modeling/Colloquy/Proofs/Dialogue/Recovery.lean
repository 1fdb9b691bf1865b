import Colloquy.Proofs.Dialogue.Agreement
import Colloquy.Proofs.Dialogue.Consistency

/-!
Sessions that are broken off while an answer is taken.  Each change in the store leaves the session
somewhere on its way through the form, and from there the form can be taken up again, or the event
be handled again, to the same end.
-/

namespace Colloquy

open Session (Keeper Snapshot Store Write)

namespace Conversation

variable {κ : Type} [Keeper κ] {c : Conversation} {form : Form} {position : Nat} {input : Input}
  {answers : Dict String} {world : World κ} {result : List Message × World κ}

/-- The session has done some of what leads to a result, and all that is left is to go on asking
from a later input of its form. -/
def OnTheWay (c : Conversation) (form : Form) (position : Nat) (answers : Dict String)
    (world : World κ) (before : List Effect) (result : List Message × World κ) : Prop :=
  ∃ middle final pending, position < final ∧ form.inputs[final]? = some pending ∧
    Steps c world before middle ∧ c.Stands middle.store (.inside form final answers) ∧
    c.presentFrom pending middle = result

/-- Wherever what leads to a result breaks off before a delivery, the session is on the way. -/
def Resumable (c : Conversation) (form : Form) (position : Nat) (answers : Dict String)
    (world : World κ) (result : List Message × World κ) : Prop :=
  ∃ effects, Steps c world effects result.2 ∧
    ∀ before later, effects = before ++ later → delivered before = [] → before ≠ [] →
      c.OnTheWay form position answers world before result

theorem OnTheWay.write (change : Write) (own : change.Concerns c.keys) {earlier : Nat}
    (hle : earlier ≤ position) {before : List Effect}
    (h : c.OnTheWay form position answers (world.write change).2 before result) :
    c.OnTheWay form earlier answers world (.write change (world.write change).1 :: before)
      result := by
  obtain ⟨middle, final, pending, hlt, hpending, hsteps, hstands, hresult⟩ := h
  exact ⟨middle, final, pending, by omega, hpending, .write change own hsteps, hstands, hresult⟩

/-- If a change comes before what can be resumed, it is the last one or the session is on the
way. -/
theorem singleton_or_onTheWay {change : Write} (own : change.Concerns c.keys) {earlier : Nat}
    (hle : earlier ≤ position) {effects before later : List Effect}
    (hresume : ∀ before later, effects = before ++ later → delivered before = [] → before ≠ [] →
      c.OnTheWay form position answers (world.write change).2 before result)
    (hsplit : .write change (world.write change).1 :: effects = before ++ later)
    (hundelivered : delivered before = []) (hbegun : before ≠ []) :
    before = [.write change (world.write change).1] ∨
      c.OnTheWay form earlier answers world before result := by
  cases before with
  | nil => exact absurd rfl hbegun
  | cons effect before =>
      obtain ⟨rfl, hrest⟩ := List.cons.inj hsplit
      by_cases hlast : before = []
      · exact .inl (by rw [hlast])
      · exact .inr ((hresume before later hrest hundelivered hlast).write change own hle)

theorem resumable_finalize (reached : Form) (messages : List Message) :
    c.Resumable form position answers world (messages, c.finalize reached world) := by
  refine ⟨_, .deliver rfl (.write (.deleteHash c.keys.answers) rfl
    (.write (.delete c.keys.pointer) rfl (.refl _))), ?_⟩
  intro before later hsplit hundelivered hbegun
  cases before with
  | nil => exact absurd rfl hbegun
  | cons effect before =>
      obtain ⟨rfl, _⟩ := List.cons.inj hsplit
      cases hundelivered

section

variable (hlegible : c.script.Legible)

include hlegible

theorem resumable_proceed_of (hworld : world.store.Healthy)
    (h : c.Stands world.store (.inside form position answers))
    (hinput : form.inputs[position]? = some input)
    (hrest : ∀ next (after : World κ), form.inputs[position + 1]? = some next →
      after.store.Healthy → c.Stands after.store (.inside form (position + 1) answers) →
      c.Resumable form (position + 1) answers after (c.presentFrom next after)) :
    c.Resumable form position answers world (c.proceed input world) := by
  have hnext := next?_of_inside hlegible hworld.intact h
  cases hsuccessor : form.inputs[position + 1]? with
  | none =>
      rw [hsuccessor] at hnext
      rw [proceed_of_none hnext, complete,
        hlegible.formOf?_eq h.1 (List.mem_of_getElem? hinput)]
      exact resumable_finalize form _
  | some next =>
      rw [hsuccessor] at hnext
      have hkept : (c.advance next.path world).1 = true := World.write_of_healthy hworld _
      have hmoved := stands_advance hlegible hworld h hsuccessor
      obtain ⟨effects, hsteps, hresume⟩ := hrest next (c.advance next.path world).2 hsuccessor
        (hworld.write _) hmoved
      rw [proceed_of_kept hnext hkept]
      have hpath := hlegible.path_ne_empty (Script.mem_of_form? h.1).1
        (List.mem_of_getElem? hsuccessor)
      have hadvance : c.advance next.path world = world.write (.set c.keys.pointer next.path) := by
        rw [advance, if_neg hpath]
      rw [hadvance] at hmoved hsteps hresume ⊢
      have own : (Write.set c.keys.pointer next.path).Concerns c.keys := rfl
      refine ⟨_, .write _ own hsteps, ?_⟩
      intro before later hsplit hundelivered hbegun
      rcases singleton_or_onTheWay own (Nat.le_succ position) hresume hsplit hundelivered hbegun
        with rfl | hway
      · -- Broken off right behind the move: asking goes on from the next input itself.
        exact ⟨_, position + 1, next, Nat.lt_succ_self position, hsuccessor,
          .write _ own (.refl _), hmoved, rfl⟩
      · exact hway

theorem resumable_presentFrom (hworld : world.store.Healthy)
    (h : c.Stands world.store (.inside form position answers))
    (hinput : form.inputs[position]? = some input) :
    c.Resumable form position answers world (c.presentFrom input world) := by
  -- By induction on the number of inputs from the position on.
  induction hn : form.inputs.length - position generalizing position input world with
  | zero =>
      have hlt := (List.getElem?_eq_some_iff.mp hinput).1
      omega
  | succ n ih =>
      by_cases hvisible : c.isVisible input world.store = true
      · rw [presentFrom_of_visible hvisible]
        refine ⟨[], .refl world, fun before later hsplit _ hbegun => ?_⟩
        exact absurd (List.append_eq_nil_iff.mp hsplit.symm).1 hbegun
      · rw [presentFrom_of_hidden hvisible]
        refine resumable_proceed_of hlegible hworld h hinput
          fun next after hnext hafter hstands => ?_
        exact ih hafter hstands hnext (by omega)

theorem resumable_proceed (hworld : world.store.Healthy)
    (h : c.Stands world.store (.inside form position answers))
    (hinput : form.inputs[position]? = some input) :
    c.Resumable form position answers world (c.proceed input world) :=
  resumable_proceed_of hlegible hworld h hinput fun _ _ hnext hafter hstands =>
    resumable_presentFrom hlegible hafter hstands hnext

/-- While an answer is taken, the session has stored it at most, or it is on the way. -/
theorem answer_broken_off (hworld : world.store.Healthy)
    (h : c.Stands world.store (.inside form position answers))
    (hinput : form.inputs[position]? = some input) (value : String) :
    ∃ effects, Steps c world effects (c.answer input value world).2 ∧
      ∀ before later, effects = before ++ later → delivered before = [] →
        (before.foldl Effect.replay world.store.snapshot = world.store.snapshot ∨
          before.foldl Effect.replay world.store.snapshot =
            Write.apply world.store.snapshot (.setHash c.keys.answers input.path value)) ∨
        c.OnTheWay form position (answers.insert input.path value) world before
          (c.answer input value world) := by
  have hrecorded := stands_record hworld h input.path value
  obtain ⟨effects, hsteps, hresume⟩ := resumable_proceed hlegible (hworld.write _) hrecorded hinput
  have hkept := World.write_of_healthy hworld (.setHash c.keys.answers input.path value)
  have own : (Write.setHash c.keys.answers input.path value).Concerns c.keys := rfl
  refine ⟨_, .write _ own hsteps, ?_⟩
  intro before later hsplit hundelivered
  by_cases hbegun : before = []
  · subst hbegun
    exact .inl (.inl rfl)
  · rcases singleton_or_onTheWay own (Nat.le_refl position) hresume hsplit hundelivered hbegun
      with rfl | hway
    · rw [hkept]
      exact .inl (.inr rfl)
    · exact .inr hway

end

theorem presentForm_of_pending {first pending : Input} (hfirst : form.firstInput? = some first)
    (hpending : c.pending? world.store = some pending) :
    c.presentForm form world =
      (.text form.title :: (c.presentFrom pending world).1, (c.presentFrom pending world).2) := by
  simp only [presentForm, hfirst, hpending]

theorem exists_firstInput (hinput : form.inputs[position]? = some input) :
    ∃ first, form.firstInput? = some first := by
  obtain ⟨hlt, _⟩ := List.getElem?_eq_some_iff.mp hinput
  exact ⟨form.inputs[0], List.head?_eq_getElem?.trans (List.getElem?_eq_getElem (by omega))⟩

section

variable {ι : Type} [Keeper ι] {crashed : World ι} {before : List Effect}

/-- From where the session is on its way, its form is taken up to the same end. -/
theorem OnTheWay.taken_up (hlegible : c.script.Legible) (hworld : world.store.Healthy)
    (h : c.OnTheWay form position answers world before result)
    (hundelivered : delivered before = []) (hcrashed : crashed.store.Healthy)
    (hsnapshot : crashed.store.snapshot = before.foldl Effect.replay world.store.snapshot) :
    ∃ pending, c.pending? crashed.store = some pending ∧ c.script.formOf? pending = some form ∧
      Agree (crashed.turnOf (c.presentForm form crashed))
        (world.turnOf (.text form.title :: result.1, result.2)) := by
  obtain ⟨middle, final, pending, _, hpending, hsteps, hstands, rfl⟩ := h
  have hsame : crashed.store.snapshot = middle.store.snapshot :=
    hsnapshot.trans hsteps.snapshot.symm
  have hmiddle := hsteps.healthy hworld
  have halike := alike_of_snapshot (c := c) hcrashed hmiddle hsame
  have hwaits : c.pending? crashed.store = some pending :=
    halike.pending?_eq.trans (pending?_of_inside hlegible hmiddle.intact hstands hpending)
  obtain ⟨first, hfirst⟩ := exists_firstInput hpending
  have hquiet : delivered world.log = delivered middle.log := by
    rw [hsteps.log, delivered_append, hundelivered, List.append_nil]
  refine ⟨pending, hwaits, hlegible.formOf?_eq hstands.1 (List.mem_of_getElem? hpending), ?_⟩
  rw [presentForm_of_pending hfirst hwaits, World.turnOf_congr hquiet]
  exact ((halike.inStep_presentFrom pending).prepend _).agree hcrashed hsame

/-- On the way, the session waits for another input than before. -/
theorem OnTheWay.pointer_ne (hlegible : c.script.Legible)
    (hstands : c.Stands world.store (.inside form position answers))
    {later : Dict String} (h : c.OnTheWay form position later world before result) :
    (before.foldl Effect.replay world.store.snapshot).values.get? c.keys.pointer ≠
      world.store.snapshot.values.get? c.keys.pointer := by
  obtain ⟨middle, final, _, hlt, _, hsteps, ⟨hform, ⟨reached, hreached, hpointer⟩, _⟩, _⟩ := h
  obtain ⟨_, ⟨input, hinput, hstart⟩, _⟩ := hstands
  rw [← hsteps.snapshot, hpointer, hstart]
  intro hsame
  have hposition := hlegible.paths.position_eq (Script.mem_of_form? hform).1 hreached hinput
    (Option.some.inj hsame)
  omega

end

theorem exists_inside_of_accepted (hlegible : c.script.Legible) {start : World κ}
    (hstart : start.store.Healthy) (hempty : start.store.snapshot = ∅) {events : List Event}
    {event : Event} {value : String}
    (haccepted : c.accepted? event (c.run events start).store = some (input, value)) :
    (c.run events start).store.Healthy ∧ ∃ form position answers,
      c.Stands (c.run events start).store (.inside form position answers) ∧
        form.inputs[position]? = some input := by
  obtain ⟨hhealthy, standing, hstands, -⟩ := exists_standing_run hlegible hstart hempty
    (P := fun _ _ => True) trivial (fun _ _ _ _ _ _ _ _ _ _ => trivial) events
  obtain ⟨form, position, answers, rfl, hinput⟩ := exists_inside_of_pending? hlegible
    hhealthy.intact hstands (pending?_of_accepted? haccepted)
  exact ⟨hhealthy, form, position, answers, hstands, hinput⟩

/-- Let the taking of an answer break off before anything is delivered, and the store be in order
again.  As long as the pointer has not moved, the same event comes to the same once more.  After
that the form can be taken up: but for its title the session says, submits and stores what it would
have. -/
theorem answer_taken_up {source fallbackId : String}
    (hcompiled : Script.compile source fallbackId = .ok c.script)
    (hpaths : c.script.DistinctPaths) (start : World κ) (hstart : start.store.Healthy)
    (hempty : start.store.snapshot = ∅) (events : List Event) (event : Event) (input : Input)
    (value : String)
    (haccepted : c.accepted? event (c.run events start).store = some (input, value))
    (before later : List Effect)
    (hsplit : c.effects event (c.run events start) = before ++ later)
    (hundelivered : delivered before = []) {ι : Type} [Keeper ι] (crashed : World ι)
    (hcrashed : crashed.store.Healthy)
    (hsnapshot : crashed.store.snapshot =
      before.foldl Effect.replay (c.run events start).store.snapshot) :
    let world := c.run events start
    let whole := c.turn event world
    if crashed.store.snapshot.values.get? c.keys.pointer =
        world.store.snapshot.values.get? c.keys.pointer then
      let again := c.turn event crashed
      again.1 = whole.1 ∧ again.2.store.snapshot = whole.2.store.snapshot
    else
      ∃ pending form, c.pending? crashed.store = some pending ∧
        c.script.formOf? pending = some form ∧
        let taken := crashed.turnOf (c.presentForm form crashed)
        taken.1 = ⟨.text form.title :: whole.1.messages, whole.1.submissions⟩ ∧
          taken.2.store.snapshot = whole.2.store.snapshot := by
  intro world whole
  have hlegible : c.script.Legible := ⟨hpaths, Script.compile_inputsNamed hcompiled⟩
  obtain ⟨hworld, form, position, answers, hstands, hinput⟩ :=
    exists_inside_of_accepted hlegible hstart hempty haccepted
  obtain ⟨effects, hsteps, hbroken⟩ := answer_broken_off hlegible hworld hstands hinput value
  rw [← handle_of_accepted haccepted] at hsteps hbroken
  rw [hsteps.effects_eq] at hsplit
  rcases hbroken before later hsplit hundelivered with hstored | hway
  · -- The event is accepted again, and storing its answer twice is storing it once.
    have hstill : crashed.store.snapshot.values.get? c.keys.pointer =
        world.store.snapshot.values.get? c.keys.pointer := by
      rcases hstored with hstored | hstored
      · rw [hsnapshot, hstored]
      · rw [hsnapshot, hstored]
        rfl
    have hagree := agree_of_accepted haccepted hcrashed hworld (hsnapshot ▸ hstored)
    rw [if_pos hstill]
    exact ⟨hagree.turn, hagree.snapshot⟩
  · have hmoved := hway.pointer_ne hlegible hstands
    rw [← hsnapshot] at hmoved
    obtain ⟨pending, hpending, hform, hagree⟩ :=
      hway.taken_up hlegible hworld hundelivered hcrashed hsnapshot
    rw [if_neg hmoved]
    exact ⟨pending, form, hpending, hform, hagree.turn, hagree.snapshot⟩

/-- What is stored when the form for tickets is broken off behind its first input. -/
def brokenTicket : World Session.Memory where
  store :=
    { keeper := {}
      snapshot := ⟨.ofList [("bot:session:s:current", "f/b")],
        .ofList [("bot:session:s:answer", .ofList [("f/a", "2")])]⟩ }
  picker := ⟨1⟩

theorem answer_taken_up_ticket :
    let whole := ticketTalk.turn (.message "2" [])
      (ticketTalk.run [.postback "form://f"] ticketStart)
    ∃ pending form, ticketTalk.pending? brokenTicket.store = some pending ∧
      ticketTalk.script.formOf? pending = some form ∧
      let taken := brokenTicket.turnOf (ticketTalk.presentForm form brokenTicket)
      taken.1 = ⟨.text form.title :: whole.1.messages, whole.1.submissions⟩ ∧
        taken.2.store.snapshot = whole.2.store.snapshot := by
  have hmoved : ¬ brokenTicket.store.snapshot.values.get? ticketTalk.keys.pointer =
      (ticketTalk.run [.postback "form://f"]
        ticketStart).store.snapshot.values.get? ticketTalk.keys.pointer := by
    decide +kernel
  have htaken := answer_taken_up (c := ticketTalk) Script.compile_ticketSource (by decide)
    ticketStart Session.Store.healthy_inMemory rfl [.postback "form://f"] (.message "2" [])
    ⟨"f", "f/a", "a", "please write the required data", .text, [], "", none⟩ "2"
    (by decide +kernel)
    [.write (.setHash "bot:session:s:answer" "f/a" "2") true,
      .write (.set "bot:session:s:current" "f/b") true]
    [.deliver ⟨"s", "f", "http://a/", .ofList [("a", "2")]⟩,
      .write (.deleteHash "bot:session:s:answer") true,
      .write (.delete "bot:session:s:current") true]
    (by decide +kernel) rfl brokenTicket ⟨rfl, Session.reliable_memory _⟩ (by decide +kernel)
  rw [if_neg hmoved] at htaken
  exact htaken

end Conversation

end Colloquy
