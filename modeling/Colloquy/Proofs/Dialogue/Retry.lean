import Colloquy.Proofs.Dialogue.Agreement
import Colloquy.Proofs.Dialogue.Endurance
import Colloquy.Proofs.Dialogue.Rounds

/-!
Trying again after the pointer could not be moved.  The first try to move it ends the handling of an
event; by then an answer may have been stored, or the session may have started over, and to do the
same once more changes nothing.
-/

namespace Colloquy

open Session (Keeper Operation Reliable Snapshot Store Write)

namespace Conversation

variable {κ : Type} {c : Conversation}

theorem path_ne_empty_of_next? (hnamed : c.script.InputsNamed) {store : Store κ} {next : Input}
    (h : c.next? store = some next) : next.path ≠ "" := by
  obtain ⟨form, hform, hinput⟩ := exists_form_of_next? h
  exact hnamed.path_ne_empty hform hinput

variable [Keeper κ] {world : World κ} {result : List Message × World κ}

/-- The pointer is not moved, nor has this been tried. -/
def Still (c : Conversation) (world after : World κ) : Prop :=
  c.Climbs c.script.entries.length world after

theorem Still.moves_eq_nil {event : Event} (h : c.Still world (c.handle event world).2) :
    moves (c.effects event world) = [] := by
  obtain ⟨done, hsteps, hascends⟩ := h
  have hlength := hascends.length_le
  rw [hsteps.effects_eq]
  exact List.length_eq_zero_iff.mp (by omega)

/-- Nothing has been stored or delivered when the pointer cannot be moved, and that is said. -/
def Stalls (c : Conversation) (world : World κ) (result : List Message × World κ) : Prop :=
  c.Rests world result.2 ∧ result.1.getLast? = some (.text c.script.errorText)

theorem Stalls.prepend (message : Message) (h : c.Stalls world result) :
    c.Stalls world (message :: result.1, result.2) :=
  ⟨h.1, by simp [List.getLast?_cons, h.2]⟩

section

variable (hset : .set ∈ world.store.broken)

include hset

theorem stalls_advance {path : String} (hpath : path ≠ "") :
    (c.advance path world).1 = false ∧
      c.Stalls world (c.errorMessages, (c.advance path world).2) := by
  have hrefused : world.store.write (.set c.keys.pointer path) =
      (.error (.refused .set), world.store) := Store.write_of_refused hset
  have hlost : (world.write (.set c.keys.pointer path)).1 = false := by
    simp [World.write, hrefused, Except.toBool]
  have hstore : (world.write (.set c.keys.pointer path)).2.store = world.store := by
    rw [World.store_write, hrefused]
  have hsteps : Steps c world [.write (.set c.keys.pointer path) _] _ :=
    .write (.set c.keys.pointer path) rfl (.refl _)
  rw [advance, if_neg hpath]
  exact ⟨hlost, ⟨_, hsteps, rfl, hstore⟩, rfl⟩

variable (hnamed : c.script.InputsNamed)

include hnamed

theorem stalls_or_still_proceed (input : Input) :
    c.Stalls world (c.proceed input world) ∨ c.Still world (c.proceed input world).2 := by
  cases hnext : c.next? world.store with
  | none =>
      rw [proceed_of_none hnext]
      exact .inr (climbs_complete input world)
  | some next =>
      obtain ⟨hlost, hstalls⟩ :=
        stalls_advance (c := c) hset (path_ne_empty_of_next? hnamed hnext)
      rw [proceed_of_lost hnext (by simp [hlost])]
      exact .inl hstalls

theorem stalls_or_still_presentFrom (current : Input) :
    c.Stalls world (c.presentFrom current world) ∨
      c.Still world (c.presentFrom current world).2 := by
  by_cases hvisible : c.isVisible current world.store = true
  · rw [presentFrom_of_visible hvisible]
    exact .inr (.refl world)
  · rw [presentFrom_of_hidden hvisible]
    exact stalls_or_still_proceed hset hnamed current

theorem stalls_or_still_presentForm {form : Form} (hform : form ∈ c.script.forms) :
    c.Stalls world (c.presentForm form world) ∨ c.Still world (c.presentForm form world).2 := by
  unfold presentForm
  cases hfirst : form.firstInput? with
  | none => exact .inr (.refl world)
  | some first =>
      cases c.pending? world.store with
      | some pending =>
          exact (stalls_or_still_presentFrom hset hnamed pending).imp_left (.prepend _)
      | none =>
          obtain ⟨hlost, hstalls⟩ := stalls_advance (c := c) hset
            (hnamed.path_ne_empty hform (List.mem_of_head? hfirst))
          left
          simpa [hlost] using hstalls

theorem Comes.stalls_or_still (h : c.Comes world none result) :
    c.Stalls world result ∨ c.Still world result.2 := by
  cases h with
  | present declared =>
      exact stalls_or_still_presentForm hset hnamed (Script.mem_of_form? declared).1
  | idle idles => exact .inr idles.climbs

end

/-- The world when an event comes to move the pointer. -/
def brink (c : Conversation) (event : Event) (world : World κ) : World κ :=
  match c.accepted? event world.store with
  | some (input, value) => (c.record input.path value world).2
  | none => c.outset event world

theorem brink_of_accepted {event : Event} {input : Input} {value : String}
    (h : c.accepted? event world.store = some (input, value)) :
    c.brink event world = (c.record input.path value world).2 := by
  rw [brink, h]

theorem brink_of_restarts {event : Event} (h : event.restarts = true) (world : World κ) :
    c.brink event world = (c.reset world).2 := by
  rw [brink, accepted?_of_restarts h]
  exact if_pos h

theorem brink_of_quiet {event : Event} (hquiet : event.restarts = false)
    (hrejected : c.accepted? event world.store = none) : c.brink event world = world := by
  rw [brink, hrejected]
  exact outset_of_quiet hquiet world

theorem delivered_brink (event : Event) (world : World κ) :
    delivered (c.brink event world).log = delivered world.log := by
  unfold brink outset
  split
  · exact world.delivered_write _
  · split
    · exact delivered_reset world
    · rfl

section

variable (hreliable : Reliable world.store.keeper) (hbroken : world.store.broken = [.set])

include hreliable hbroken

theorem snapshot_record_of_set_broken (path value : String) :
    (c.record path value world).2.store.snapshot =
      Write.apply world.store.snapshot (.setHash c.keys.answers path value) :=
  hreliable.snapshot_write (by simp [hbroken, Write.operation])

theorem snapshot_reset_of_set_broken :
    (c.reset world).2.store.snapshot = c.forget world.store.snapshot :=
  snapshot_reset hreliable (by simp [hbroken]) (by simp [hbroken])

theorem get?_pointer_brink (event : Event) :
    (c.brink event world).store.snapshot.values.get? c.keys.pointer =
      if event.restarts then none else world.store.snapshot.values.get? c.keys.pointer := by
  cases hrestarts : event.restarts with
  | true =>
      rw [brink_of_restarts hrestarts, snapshot_reset_of_set_broken hreliable hbroken]
      simp [forget]
  | false =>
      cases haccepted : c.accepted? event world.store with
      | some answer =>
          rw [brink_of_accepted haccepted, snapshot_record_of_set_broken hreliable hbroken]
          rfl
      | none =>
          rw [brink_of_quiet hrestarts haccepted]
          rfl

/-- If the pointer is to be moved at all, that is the last thing to be tried. -/
theorem stalls_or_still_handle (hnamed : c.script.InputsNamed) (event : Event) :
    c.Stalls (c.brink event world) (c.handle event world) ∨
      c.Still world (c.handle event world).2 := by
  cases haccepted : c.accepted? event world.store with
  | some answer =>
      obtain ⟨input, value⟩ := answer
      have hset : .set ∈ (c.record input.path value world).2.store.broken := by
        simp [record, hbroken]
      rw [brink_of_accepted haccepted, handle_of_accepted haccepted, answer_eq_proceed]
      refine (stalls_or_still_proceed hset hnamed input).imp_right fun hstill => ?_
      exact hstill.write (.setHash c.keys.answers input.path value) rfl fun _ => rfl
  | none =>
      obtain ⟨answer?, hanswer, hcomes⟩ := handle_comes (c := c) event world
      cases hrestarts : event.restarts with
      | false =>
          rw [outset_of_quiet hrestarts, hanswer hrestarts, haccepted] at hcomes
          rw [brink_of_quiet hrestarts haccepted]
          exact hcomes.stalls_or_still (by simp [hbroken]) hnamed
      | true =>
          have hset : .set ∈ (c.reset world).2.store.broken := by
            simp [reset, advance, hbroken]
          have hblank : (c.reset world).2.store.snapshot.value c.keys.pointer = "" := by
            rw [snapshot_reset_of_set_broken hreliable hbroken]
            simp [forget, Snapshot.value]
          rw [outset, if_pos hrestarts] at hcomes
          -- Nothing is pending once the session has started over, so nothing can be answered.
          have hnone : answer? = none := by
            by_contra hsome
            obtain ⟨answer, rfl⟩ := Option.ne_none_iff_exists'.mp hsome
            have hpending := hcomes.pending answer.1 answer.2 rfl
            exact (input?_of_pending? hpending).1 hblank
          subst hnone
          rw [brink_of_restarts hrestarts]
          exact (hcomes.stalls_or_still hset hnamed).imp_right .reset

end

theorem exists_postback_of_moves {event : Event} (hmoves : moves (c.effects event world) ≠ [])
    (hrejected : c.accepted? event world.store = none) :
    ∃ payload, event = .postback payload := by
  cases event with
  | optIn =>
      have hstill : c.Still world (c.handle .optIn world).2 := .refl world
      exact absurd hstill.moves_eq_nil hmoves
  | message content attachments =>
      have hstill : c.Still world (c.handle (.message content attachments) world).2 :=
        (idles_handleMessage hrejected).climbs
      exact absurd hstill.moves_eq_nil hmoves
  | postback payload => exact ⟨payload, rfl⟩

section

variable {start : World κ} (hstart : start.store.Healthy) {event : Event}

include hstart

theorem accepted?_under_set :
    c.accepted? event (start.under [.set]).store = c.accepted? event start.store := by
  apply accepted?_congr
  simp [pending?, Store.get, Store.read, World.under, hstart.intact]

/-- What the failed handling of an event has left behind makes no difference to its next one. -/
theorem agree_after_brink {again : World κ} (hagain : again.store.Healthy)
    (hmoves : moves (c.effects event (start.under [.set])) ≠ [])
    (h : again.store.snapshot = (c.brink event (start.under [.set])).store.snapshot) :
    Agree (c.turn event again) (c.turn event start) := by
  have hreliable : Reliable (start.under [.set]).store.keeper := hstart.reliable
  cases haccepted : c.accepted? event (start.under [.set]).store with
  | some answer =>
      obtain ⟨input, value⟩ := answer
      rw [brink_of_accepted haccepted, snapshot_record_of_set_broken hreliable rfl] at h
      rw [accepted?_under_set hstart] at haccepted
      exact agree_of_accepted haccepted hagain hstart (.inr h)
  | none =>
      obtain ⟨payload, rfl⟩ := exists_postback_of_moves hmoves haccepted
      cases hrestarts : Event.restarts (.postback payload) with
      | true =>
          -- Starting over a second time forgets what the first time has forgotten.
          rw [brink_of_restarts hrestarts, snapshot_reset_of_set_broken hreliable rfl] at h
          have helsewhere : c.SameElsewhere again.store.snapshot start.store.snapshot := by
            rw [h]
            exact sameElsewhere_forget start.store.snapshot
          obtain ⟨token, hpayload, hparse, hresets⟩ := exists_token_of_restarts hrestarts
          rw [turn_of_resets hpayload hparse hresets, turn_of_resets hpayload hparse hresets]
          exact agree_follow_reset hagain hstart helsewhere token
      | false =>
          rw [brink_of_quiet hrestarts haccepted] at h
          have halike : c.Alike again.store start.store := alike_of_snapshot hagain hstart h
          exact (halike.inStep_handlePostback payload).agree hagain h

end

/-- If the pointer cannot be moved on the way, the error text is said last, nothing is submitted and
the session stays where it was, or outside if it was to start over.  Once the store is in order, the
same event comes to what it would have come to at first. -/
theorem turn_tried_again {source fallbackId : String}
    (hcompiled : Script.compile source fallbackId = .ok c.script) (start : World κ)
    (hstart : start.store.Healthy) (event : Event)
    (hmoves : moves (c.effects event (start.under [.set])) ≠ []) :
    let failed := c.turn event (start.under [.set])
    let again := c.turn event (failed.2.under [])
    let once := c.turn event start
    failed.1.messages.getLast? = some (.text c.script.errorText) ∧ failed.1.submissions = [] ∧
      failed.2.store.snapshot.values.get? c.keys.pointer =
        (if event.restarts then none else start.store.snapshot.values.get? c.keys.pointer) ∧
      again.1 = once.1 ∧ again.2.store.snapshot = once.2.store.snapshot := by
  intro failed again once
  have hreliable : Reliable (start.under [.set]).store.keeper := hstart.reliable
  have hstalls := (stalls_or_still_handle hreliable rfl (Script.compile_inputsNamed hcompiled)
    event).resolve_right fun hstill => hmoves hstill.moves_eq_nil
  obtain ⟨⟨done, hsteps, hdelivered, hstore⟩, hlast⟩ := hstalls
  have hnone : failed.1.submissions = [] := by
    have hdrop := hsteps.delivered_drop
    rw [delivered_brink] at hdrop
    exact hdrop.trans hdelivered
  have hsnapshot : failed.2.store.snapshot =
      (c.brink event (start.under [.set])).store.snapshot := congrArg Store.snapshot hstore
  have hhealthy : (failed.2.under []).store.Healthy := ⟨rfl, reliable_handle hreliable event⟩
  have hagree : Agree again once := agree_after_brink hstart hhealthy hmoves hsnapshot
  refine ⟨hlast, hnone, ?_, hagree.turn, hagree.snapshot⟩
  rw [hsnapshot]
  exact get?_pointer_brink hreliable rfl event

/-- A session that waits for the first input of the form for tickets. -/
def waitingTicket : World Session.Memory where
  store := { keeper := {}, snapshot := ⟨.ofList [("bot:session:s:current", "f/a")], ∅⟩ }
  picker := ⟨0⟩

theorem turn_tried_again_ticket :
    let event := .message "1" []
    let failed := ticketTalk.turn event (waitingTicket.under [.set])
    let again := ticketTalk.turn event (failed.2.under [])
    let once := ticketTalk.turn event waitingTicket
    failed.1.messages.getLast? = some (.text ticketTalk.script.errorText) ∧
      failed.1.submissions = [] ∧
      failed.2.store.snapshot.values.get? ticketTalk.keys.pointer =
        (if event.restarts then none else
          waitingTicket.store.snapshot.values.get? ticketTalk.keys.pointer) ∧
      again.1 = once.1 ∧ again.2.store.snapshot = once.2.store.snapshot :=
  turn_tried_again (c := ticketTalk) Script.compile_ticketSource waitingTicket
    ⟨rfl, Session.reliable_memory _⟩ (.message "1" []) (by decide +kernel)

end Conversation

end Colloquy
