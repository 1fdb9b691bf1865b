import Colloquy.Proofs.Dialogue.Passage
import Colloquy.Proofs.Dict

/-!
Worlds from which the same is said and delivered, and the same stored.  It does not matter how a
session came to its entries in the store, and after it has started over not even what they were.
-/

namespace Colloquy

open Session (Keeper Reliable Snapshot Store Write)

theorem Session.Write.apply_setHash_again (snapshot : Snapshot) (key field value : String) :
    Write.apply (Write.apply snapshot (.setHash key field value)) (.setHash key field value) =
      Write.apply snapshot (.setHash key field value) := by
  simp [Write.apply, Snapshot.hash, Dict.insert_insert]

namespace World

variable {κ : Type}

/-- What something done in a world brings about. -/
def turnOf (world : World κ) (result : List Message × World κ) : Turn × World κ :=
  (⟨result.1, (delivered result.2.log).drop (delivered world.log).length⟩, result.2)

theorem turnOf_congr {world other : World κ} (h : delivered world.log = delivered other.log)
    (result : List Message × World κ) : world.turnOf result = other.turnOf result := by
  rw [turnOf, turnOf, h]

theorem delivered_write [Keeper κ] (world : World κ) (change : Write) :
    delivered (world.write change).2.log = delivered world.log := by
  rw [log_write, delivered_append]
  exact List.append_nil _

end World

/-- Two turns tell the same, and leave the same in the store. -/
structure Agree {κ ι : Type} (first : Turn × World κ) (second : Turn × World ι) : Prop where
  turn : first.1 = second.1
  snapshot : first.2.store.snapshot = second.2.store.snapshot

namespace Conversation

variable {κ ι : Type} [Keeper κ] [Keeper ι] {c : Conversation} {first : World κ}
  {second : World ι} {result : List Message × World κ} {other : List Message × World ι}

theorem turn_eq_turnOf (event : Event) (world : World κ) :
    c.turn event world = world.turnOf (c.handle event world) := rfl

/-- What is done for an event, as the log tells. -/
def effects (c : Conversation) (event : Event) (world : World κ) : List Effect :=
  (c.handle event world).2.log.drop world.log.length

theorem Steps.effects_eq {event : Event} {world : World κ} {done : List Effect}
    (h : Steps c world done (c.handle event world).2) : c.effects event world = done := by
  rw [effects, h.log, List.drop_left]

theorem alike_of_snapshot (hfirst : first.store.Healthy) (hsecond : second.store.Healthy)
    (h : first.store.snapshot = second.store.snapshot) : c.Alike first.store second.store :=
  ⟨hfirst.intact, hsecond, by rw [h], by rw [h]⟩

theorem InStep.agree (h : c.InStep first second result other) (hfirst : first.store.Healthy)
    (hsnapshot : first.store.snapshot = second.store.snapshot) :
    Agree (first.turnOf result) (second.turnOf other) := by
  obtain ⟨effects, hsteps, hrest⟩ := h
  obtain ⟨hother, hmessages⟩ := hrest.resolve_left (hsteps.not_failed hfirst)
  refine ⟨?_, ?_⟩
  · simp only [World.turnOf, hmessages, hsteps.delivered_drop, hother.delivered_drop]
  · simp only [World.turnOf, hsteps.snapshot, hother.snapshot, hsnapshot]

/-!
Answering again.
-/

omit [Keeper κ] [Keeper ι] in
theorem accepted?_congr {store : Store κ} {same : Store ι}
    (h : c.pending? store = c.pending? same) (event : Event) :
    c.accepted? event store = c.accepted? event same := by
  cases event with
  | optIn => rfl
  | message content attachments => simp only [accepted?, written?, h]
  | postback payload => simp only [accepted?, chosen?, h]

theorem turn_of_accepted {event : Event} {world : World κ} {input : Input} {value : String}
    (h : c.accepted? event world.store = some (input, value)) :
    c.turn event world = (c.record input.path value world).2.turnOf
      (c.proceed input (c.record input.path value world).2) := by
  rw [turn_eq_turnOf, handle_of_accepted h, answer_eq_proceed]
  exact World.turnOf_congr (world.delivered_write _).symm _

/-- It does not matter whether an answer has been stored before. -/
theorem agree_of_accepted {event : Event} {input : Input} {value : String}
    (haccepted : c.accepted? event second.store = some (input, value))
    (hfirst : first.store.Healthy) (hsecond : second.store.Healthy)
    (h : first.store.snapshot = second.store.snapshot ∨ first.store.snapshot =
      Write.apply second.store.snapshot (.setHash c.keys.answers input.path value)) :
    Agree (c.turn event first) (c.turn event second) := by
  have hpointer : first.store.snapshot.value c.keys.pointer =
      second.store.snapshot.value c.keys.pointer := by
    rcases h with h | h
    · rw [h]
    · rw [h, Snapshot.value_setHash]
  have hpending : c.pending? first.store = c.pending? second.store := by
    rw [pending?_of_intact hfirst.intact, pending?_of_intact hsecond.intact, hpointer]
  have hrecorded : (c.record input.path value first).2.store.snapshot =
      (c.record input.path value second).2.store.snapshot := by
    simp only [record, World.store_write, hfirst.snapshot_write, hsecond.snapshot_write]
    rcases h with h | h
    · rw [h]
    · rw [h, Write.apply_setHash_again]
  have halike := alike_of_snapshot (c := c) (hfirst.write _) (hsecond.write _) hrecorded
  rw [turn_of_accepted haccepted,
    turn_of_accepted ((accepted?_congr hpending event).trans haccepted)]
  exact (halike.inStep_proceed input).agree (hfirst.write _) hrecorded

/-!
Starting over.
-/

/-- Two snapshots differ at most in what they hold for the session. -/
structure SameElsewhere (c : Conversation) (first second : Snapshot) : Prop where
  values : ∀ key, key ≠ c.keys.pointer → first.values.get? key = second.values.get? key
  hashes : ∀ key, key ≠ c.keys.answers → first.hashes.get? key = second.hashes.get? key

/-- A snapshot without the entries of the session. -/
def forget (c : Conversation) (snapshot : Snapshot) : Snapshot :=
  ⟨snapshot.values.erase c.keys.pointer, snapshot.hashes.erase c.keys.answers⟩

theorem SameElsewhere.forget_eq {first second : Snapshot} (h : c.SameElsewhere first second) :
    c.forget first = c.forget second := by
  have hvalues : first.values.erase c.keys.pointer = second.values.erase c.keys.pointer := by
    ext key : 1
    by_cases hkey : c.keys.pointer = key
    · simp [hkey]
    · simp [hkey, h.values key (Ne.symm hkey)]
  have hhashes : first.hashes.erase c.keys.answers = second.hashes.erase c.keys.answers := by
    ext key : 1
    by_cases hkey : c.keys.answers = key
    · simp [hkey]
    · simp [hkey, h.hashes key (Ne.symm hkey)]
  rw [forget, forget, hvalues, hhashes]

theorem sameElsewhere_forget (snapshot : Snapshot) :
    c.SameElsewhere (c.forget snapshot) snapshot := by
  refine ⟨fun key hkey => ?_, fun key hkey => ?_⟩
  · simp [forget, Ne.symm hkey]
  · simp [forget, Ne.symm hkey]

theorem snapshot_reset {world : World κ} (hreliable : Reliable world.store.keeper)
    (hanswers : .deleteHash ∉ world.store.broken) (hpointer : .delete ∉ world.store.broken) :
    (c.reset world).2.store.snapshot = c.forget world.store.snapshot := by
  have hcleared : (world.store.write (.deleteHash c.keys.answers)).2.snapshot =
      Write.apply world.store.snapshot (.deleteHash c.keys.answers) :=
    hreliable.snapshot_write hanswers
  have hworks : (Write.delete c.keys.pointer).operation ∉
      (world.store.write (.deleteHash c.keys.answers)).2.broken := by
    rwa [Store.broken_write]
  have hdropped := (hreliable.write (.deleteHash c.keys.answers)).snapshot_write hworks
  rw [hcleared] at hdropped
  exact hdropped

theorem delivered_reset (world : World κ) :
    delivered (c.reset world).2.log = delivered world.log := by
  have hcleared := world.delivered_write (.deleteHash c.keys.answers)
  exact ((world.write _).2.delivered_write (.delete c.keys.pointer)).trans hcleared

theorem exists_token_of_restarts {payload : String}
    (h : Event.restarts (.postback payload) = true) :
    ∃ token, payload ≠ getStarted ∧ Routing.Token.parse payload = .ok token ∧
      token.requestsReset = true := by
  simp only [Event.restarts, Bool.and_eq_true, decide_eq_true_eq] at h
  obtain ⟨hpayload, hresets⟩ := h
  cases hparse : Routing.Token.parse payload with
  | ok token => exact ⟨token, hpayload, rfl, by simpa [hparse] using hresets⟩
  | error fault => simp [hparse] at hresets

theorem turn_of_resets {payload : String} {token : Routing.Token}
    (hpayload : payload ≠ getStarted) (hparse : Routing.Token.parse payload = .ok token)
    (hresets : token.requestsReset = true) (world : World κ) :
    c.turn (.postback payload) world =
      (c.reset world).2.turnOf (c.follow token (c.reset world).2) := by
  rw [turn_eq_turnOf, handle, handlePostback, if_neg hpayload, hparse]
  simp only [if_pos hresets]
  exact World.turnOf_congr (delivered_reset world).symm _

theorem agree_follow_reset (hfirst : first.store.Healthy) (hsecond : second.store.Healthy)
    (h : c.SameElsewhere first.store.snapshot second.store.snapshot) (token : Routing.Token) :
    Agree ((c.reset first).2.turnOf (c.follow token (c.reset first).2))
      ((c.reset second).2.turnOf (c.follow token (c.reset second).2)) := by
  have hsnapshot : (c.reset first).2.store.snapshot = (c.reset second).2.store.snapshot := by
    rw [snapshot_reset hfirst.reliable (hfirst.works (.deleteHash c.keys.answers))
        (hfirst.works (.delete c.keys.pointer)),
      snapshot_reset hsecond.reliable (hsecond.works (.deleteHash c.keys.answers))
        (hsecond.works (.delete c.keys.pointer)), h.forget_eq]
  have halike := alike_of_snapshot (c := c) (healthy_reset hfirst) (healthy_reset hsecond) hsnapshot
  exact (halike.inStep_follow token).agree (healthy_reset hfirst) hsnapshot

/-- A button that makes a session start over says, submits and stores the same wherever the session
stood and whatever it had answered. -/
theorem turn_of_resets_eq {payload : String} {token : Routing.Token}
    (hpayload : payload ≠ getStarted) (hparse : Routing.Token.parse payload = .ok token)
    (hresets : token.requestsReset = true) (first : World κ) (second : World ι)
    (hfirst : first.store.Healthy) (hsecond : second.store.Healthy)
    (h : c.SameElsewhere first.store.snapshot second.store.snapshot) :
    (c.turn (.postback payload) first).1 = (c.turn (.postback payload) second).1 ∧
      (c.turn (.postback payload) first).2.store.snapshot =
        (c.turn (.postback payload) second).2.store.snapshot := by
  have hagree := agree_follow_reset hfirst hsecond h token
  rw [turn_of_resets hpayload hparse hresets first, turn_of_resets hpayload hparse hresets second]
  exact ⟨hagree.turn, hagree.snapshot⟩

/-- A session that waits for an input of no form, with answers to two forms. -/
def strayTicket : World Session.Memory where
  store :=
    { keeper := {}
      snapshot := ⟨.ofList [("bot:session:s:current", "h/x"), ("bot:session:t:current", "f/a")],
        .ofList [("bot:session:s:answer", .ofList [("f/a", "1"), ("g/a", "2")])]⟩ }
  picker := ⟨0⟩

def freshTicket : World Session.Memory where
  store := { keeper := {}, snapshot := ⟨.ofList [("bot:session:t:current", "f/a")], ∅⟩ }
  picker := ⟨1⟩

theorem turn_of_resets_eq_ticket :
    let c : Conversation := ⟨ticketEngine "bot", "s"⟩
    let payload := "form://f?reset=yes"
    (c.turn (.postback payload) strayTicket).1 = (c.turn (.postback payload) freshTicket).1 ∧
      (c.turn (.postback payload) strayTicket).2.store.snapshot =
        (c.turn (.postback payload) freshTicket).2.store.snapshot := by
  have hparse : Routing.Token.parse "form://f?reset=yes" =
      .ok ((Routing.Token.new .form "f").withParam Routing.Token.resetParam "yes") := by
    decide +kernel
  refine turn_of_resets_eq (by decide) hparse (by decide) strayTicket freshTicket
    ⟨rfl, Session.reliable_memory _⟩ ⟨rfl, Session.reliable_memory _⟩ ⟨?_, ?_⟩
  · intro key hkey
    have hne : "bot:session:s:current" ≠ key := fun heq => hkey (heq.symm.trans (by decide))
    simp [strayTicket, freshTicket, Dict.ofList, hne]
  · intro key hkey
    have hne : "bot:session:s:answer" ≠ key := fun heq => hkey (heq.symm.trans (by decide))
    simp [strayTicket, freshTicket, Dict.ofList, hne]

end Conversation

end Colloquy
