import Colloquy.Dialogue.Service
import Colloquy.Proofs.Dialogue.Turn
import Colloquy.Proofs.Session.Keys

/-!
Several bots on one store, and the events of their sessions in any order.  A session never sees the
others: it fares as if only its own events had come.
-/

namespace Colloquy

open Session (Keeper Store)

/-- An event for a session with the bot at a position. -/
structure Call where
  bot : Nat
  session : String
  event : Event

def Call.concerns (bot : Nat) (session : String) (call : Call) : Bool :=
  call.bot = bot && call.session = session

def turnsOf (bot : Nat) (session : String) (turns : List (Call × Turn)) : List (Call × Turn) :=
  turns.filter (·.1.concerns bot session)

theorem turnsOf_cons_of_concerns {bot : Nat} {session : String} {call : Call}
    (h : call.concerns bot session = true) (turn : Turn) (turns : List (Call × Turn)) :
    turnsOf bot session ((call, turn) :: turns) = (call, turn) :: turnsOf bot session turns :=
  List.filter_cons_of_pos h

theorem turnsOf_cons_of_not_concerns {bot : Nat} {session : String} {call : Call}
    (h : ¬ call.concerns bot session = true) (turn : Turn) (turns : List (Call × Turn)) :
    turnsOf bot session ((call, turn) :: turns) = turnsOf bot session turns :=
  List.filter_cons_of_neg h

namespace Service

variable {κ : Type}

def engines (service : Service κ) : List Engine := service.bots.map (·.1)

/-- Sessions of different bots can be told apart by their keys. -/
def Separate (service : Service κ) : Prop :=
  service.engines.length ≤ 1 ∨
    (service.engines.map (·.script.id)).Nodup ∧
      ∀ engine ∈ service.engines, ':' ∉ engine.script.id.toList

def serve [Keeper κ] (service : Service κ) (call : Call) : Option (Turn × Service κ) :=
  service.act call.bot call.session (·.turn call.event)

/-- Handles calls one after another and tells what each of them led to.  A call for a bot that is
not there leads to nothing. -/
def run [Keeper κ] (service : Service κ) : List Call → List (Call × Turn) × Service κ
  | [] => ([], service)
  | call :: calls =>
    match service.serve call with
    | some (turn, next) =>
      let (turns, last) := next.run calls
      ((call, turn) :: turns, last)
    | none => service.run calls

theorem Separate.stem_ne {service : Service κ} (h : service.Separate) {position other : Nat}
    {engine otherEngine : Engine} {session otherSession : String}
    (hengine : service.engines[position]? = some engine)
    (hother : service.engines[other]? = some otherEngine)
    (hdiffer : ¬ (other = position ∧ otherSession = session)) :
    (⟨otherEngine, otherSession⟩ : Conversation).keys.stem ≠
      (⟨engine, session⟩ : Conversation).keys.stem := by
  intro hstem
  apply hdiffer
  have hlt : position < service.engines.length := (List.getElem?_eq_some_iff.mp hengine).1
  have hlt' : other < service.engines.length := (List.getElem?_eq_some_iff.mp hother).1
  rcases h with hsingle | ⟨hids, hcolon⟩
  · have hposition : other = position := by omega
    subst hposition
    rw [hengine] at hother
    obtain rfl : engine = otherEngine := Option.some.inj hother
    have hkeys : (⟨engine, otherSession⟩ : Conversation).keys =
        (⟨engine, session⟩ : Conversation).keys := Session.Keys.stem_injective rfl hstem
    exact ⟨rfl, congrArg Session.Keys.session hkeys⟩
  · have hkeys := Session.Keys.stem_injective_of_no_colon
      (hcolon otherEngine (List.mem_of_getElem? hother))
      (hcolon engine (List.mem_of_getElem? hengine)) hstem
    refine ⟨?_, congrArg Session.Keys.session hkeys⟩
    apply (List.getElem?_inj (by simpa using hlt') hids).mp
    have hid : otherEngine.script.id = engine.script.id := congrArg Session.Keys.scriptId hkeys
    simpa [hengine, hother] using hid

section

variable [Keeper κ] {service : Service κ} {call : Call} {engine : Engine}

theorem serve_eq_some (hengine : service.engines[call.bot]? = some engine) :
    ∃ picker, ∃ next : Service κ,
      let turned := (⟨engine, call.session⟩ : Conversation).turn call.event
        ⟨service.store, picker, service.log⟩
      service.serve call = some (turned.1, next) ∧ next.store = turned.2.store ∧
        next.engines = service.engines := by
  simp only [engines, List.getElem?_map, Option.map_eq_some_iff] at hengine
  obtain ⟨⟨_, picker⟩, hbot, rfl⟩ := hengine
  refine ⟨picker, _, by simp only [serve, act, hbot, Option.map_some]; rfl, rfl, ?_⟩
  have hlt := (List.getElem?_eq_some_iff.mp hbot)
  obtain ⟨hlt, hget⟩ := hlt
  simp only [engines, List.map_set]
  apply List.ext_getElem?
  intro i
  by_cases hi : i = call.bot
  · subst hi
    simp [hlt, hget]
  · simp [List.getElem?_set_ne (Ne.symm hi)]

theorem serve_eq_none (hengine : service.engines[call.bot]? = none) :
    service.serve call = none := by
  have hbot : service.bots[call.bot]? = none := by simpa [engines] using hengine
  simp [serve, act, hbot]

theorem engines_serve {turn : Turn} {next : Service κ}
    (hserve : service.serve call = some (turn, next)) : next.engines = service.engines := by
  cases hengine : service.engines[call.bot]? with
  | none =>
      rw [serve_eq_none hengine] at hserve
      cases hserve
  | some engine =>
      obtain ⟨_, next', hserve', _, hengines⟩ := serve_eq_some hengine
      obtain rfl : next' = next := by
        rw [hserve] at hserve'
        exact (congrArg Prod.snd (Option.some.inj hserve')).symm
      exact hengines

theorem Separate.serve {turn : Turn} {next : Service κ} (h : service.Separate)
    (hserve : service.serve call = some (turn, next)) : next.Separate := by
  rw [Separate, engines_serve hserve]
  exact h

end

section

variable [Keeper κ] {engine : Engine} {position : Nat} {session : String}

/-- Two services with the same bots in which a session stands at the same place. -/
structure Alike (engine : Engine) (session : String) (together alone : Service κ) : Prop where
  engines : together.engines = alone.engines
  healthy : together.store.Healthy
  stores : Conversation.Alike ⟨engine, session⟩ together.store alone.store

namespace Alike

variable {together alone : Service κ}

theorem serve_own (h : Alike engine session together alone) {call : Call}
    (hengine : together.engines[position]? = some engine)
    (hcall : call.concerns position session = true) :
    ∃ turn next turn' next', together.serve call = some (turn, next) ∧
      alone.serve call = some (turn', next') ∧ Alike engine session next next' ∧
      turn.submissions = turn'.submissions ∧
      (engine.script.SingleReplies → turn = turn') := by
  simp only [Call.concerns, Bool.and_eq_true, decide_eq_true_eq] at hcall
  obtain ⟨rfl, rfl⟩ := hcall
  obtain ⟨picker, next, hserve, hstore, hengines⟩ := serve_eq_some hengine
  have halone : alone.engines[call.bot]? = some engine := h.engines ▸ hengine
  obtain ⟨picker', next', hserve', hstore', hengines'⟩ := serve_eq_some halone
  let first : World κ := ⟨together.store, picker, together.log⟩
  let second : World κ := ⟨alone.store, picker', alone.log⟩
  have hworlds : Conversation.Alike ⟨engine, call.session⟩ first.store second.store := h.stores
  obtain ⟨effects, hsteps, hrest⟩ := hworlds.turn call.event
  obtain ⟨hsteps', hsubmissions, hturn⟩ := hrest.resolve_left (hsteps.not_failed h.healthy)
  refine ⟨_, next, _, next', hserve, hserve', ?_, hsubmissions, hturn⟩
  refine ⟨by rw [hengines, hengines', h.engines], hstore ▸ hsteps.healthy h.healthy, ?_⟩
  rw [hstore, hstore']
  exact hworlds.after hsteps hsteps'

theorem serve_other (h : Alike engine session together alone) {call : Call}
    (hseparate : together.Separate)
    (hengine : together.engines[position]? = some engine)
    (hcall : ¬ call.concerns position session = true) {turn : Turn} {next : Service κ}
    (hserve : together.serve call = some (turn, next)) :
    Alike engine session next alone := by
  cases hother : together.engines[call.bot]? with
  | none =>
      rw [serve_eq_none hother] at hserve
      cases hserve
  | some otherEngine =>
      obtain ⟨picker, next', hserve', hstore, hengines⟩ := serve_eq_some hother
      obtain rfl : next' = next := by
        rw [hserve] at hserve'
        exact (congrArg Prod.snd (Option.some.inj hserve')).symm
      have hdiffer : ¬ (call.bot = position ∧ call.session = session) := by
        simpa [Call.concerns] using hcall
      have hstem := hseparate.stem_ne hengine hother hdiffer
      obtain ⟨effects, hsteps⟩ := Conversation.reaches_handle
        (c := ⟨otherEngine, call.session⟩) call.event
        ⟨together.store, picker, together.log⟩
      refine ⟨by rw [hengines, h.engines], hstore ▸ hsteps.healthy h.healthy, ?_⟩
      rw [hstore]
      refine ⟨hsteps.broken.trans h.stores.intact, h.stores.healthy, ?_, ?_⟩
      · refine (hsteps.values_frame fun hkey => ?_).trans h.stores.pointer
        exact hstem (Session.Keys.stem_eq_of_pointer_eq hkey.symm)
      · refine (hsteps.hashes_frame fun hkey => ?_).trans h.stores.answers
        exact hstem (Session.Keys.stem_eq_of_answers_eq hkey.symm)

/-- The calls of a session leave it where it would be without all the others, and lead to the same
turns. -/
theorem run (h : Alike engine session together alone) (hseparate : together.Separate)
    (hengine : together.engines[position]? = some engine) (calls : List Call) :
    let own := turnsOf position session (together.run calls).1
    let kept := calls.filter (·.concerns position session)
    Alike engine session (together.run calls).2 (alone.run kept).2 ∧
      own.map (·.2.submissions) = (alone.run kept).1.map (·.2.submissions) ∧
      (engine.script.SingleReplies → own = (alone.run kept).1) := by
  -- The service that stands alone moves with the calls of the session only.
  induction calls generalizing together alone with
  | nil => exact ⟨h, rfl, fun _ => rfl⟩
  | cons call calls ih =>
      by_cases hcall : call.concerns position session = true
      · obtain ⟨turn, next, turn', next', hserve, hserve', hnext, hsubmissions, hturn⟩ :=
          h.serve_own hengine hcall
        obtain ⟨hlast, htold, hsaid⟩ := ih hnext (hseparate.serve hserve)
          (engines_serve hserve ▸ hengine)
        simp only [List.filter_cons_of_pos hcall, Service.run, hserve, hserve',
          turnsOf_cons_of_concerns hcall, List.map_cons]
        refine ⟨hlast, ?_, fun hsingle => ?_⟩
        · rw [htold, hsubmissions]
        · rw [hsaid hsingle, hturn hsingle]
      · rw [List.filter_cons_of_neg hcall]
        cases hserve : together.serve call with
        | none =>
            simp only [Service.run, hserve]
            exact ih h hseparate hengine
        | some served =>
            obtain ⟨turn, next⟩ := served
            simp only [Service.run, hserve, turnsOf_cons_of_not_concerns hcall]
            exact ih (h.serve_other hseparate hengine hcall hserve) (hseparate.serve hserve)
              (engines_serve hserve ▸ hengine)

end Alike

end

/-- Whatever the events of the other sessions are and however they come in between, a session ends
up with the same pending input and answers, delivers the same submissions with each of its events,
and is told the same if no template leaves a choice. -/
theorem run_interleaved [Keeper κ] (service : Service κ) (hstore : service.store.Healthy)
    (hseparate : service.Separate) (position : Nat) {engine : Engine}
    (hengine : service.engines[position]? = some engine) (session : String)
    (calls : List Call) :
    let keys := (⟨engine, session⟩ : Conversation).keys
    let together := service.run calls
    let alone := service.run (calls.filter (·.concerns position session))
    let own := turnsOf position session together.1
    together.2.store.snapshot.values.get? keys.pointer =
        alone.2.store.snapshot.values.get? keys.pointer ∧
      together.2.store.snapshot.hashes.get? keys.answers =
        alone.2.store.snapshot.hashes.get? keys.answers ∧
      own.map (·.2.submissions) = alone.1.map (·.2.submissions) ∧
      (engine.script.SingleReplies → own = alone.1) := by
  have hstart : Alike engine session service service :=
    ⟨rfl, hstore, hstore.intact, hstore, rfl, rfl⟩
  obtain ⟨hlast, hsubmissions, hturns⟩ := hstart.run hseparate hengine calls
  exact ⟨hlast.stores.pointer, hlast.stores.answers, hsubmissions, hturns⟩

/-- Two bots that differ in their identifiers only. -/
def ticketOffice : Service Session.Memory where
  bots := [(ticketEngine "north", ⟨0⟩), (ticketEngine "south", ⟨0⟩)]
  store := .inMemory

def ticketCalls : List Call :=
  [⟨0, "s", .postback "form://f"⟩, ⟨1, "s", .postback "form://f"⟩, ⟨1, "s", .message "1" []⟩,
    ⟨0, "t", .message "1" []⟩, ⟨0, "s", .message "2" []⟩]

theorem run_interleaved_ticket :
    let keys := (⟨ticketEngine "north", "s"⟩ : Conversation).keys
    let together := ticketOffice.run ticketCalls
    let alone := ticketOffice.run [⟨0, "s", .postback "form://f"⟩, ⟨0, "s", .message "2" []⟩]
    let own := turnsOf 0 "s" together.1
    together.2.store.snapshot.values.get? keys.pointer =
        alone.2.store.snapshot.values.get? keys.pointer ∧
      together.2.store.snapshot.hashes.get? keys.answers =
        alone.2.store.snapshot.hashes.get? keys.answers ∧
      own = alone.1 := by
  obtain ⟨hpointer, hanswers, _, hturns⟩ :=
    run_interleaved ticketOffice Session.Store.healthy_inMemory
      (.inr ⟨by decide, by simp [engines, ticketOffice, ticketEngine]⟩) 0 rfl "s" ticketCalls
  refine ⟨hpointer, hanswers, hturns ?_⟩
  intro template htemplate
  cases htemplate

end Service

end Colloquy
