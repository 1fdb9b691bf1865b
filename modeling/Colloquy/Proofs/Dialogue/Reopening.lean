import Colloquy.Proofs.Dialogue.Turn
import Colloquy.Proofs.Session.Saved

/-!
Bots that are built anew, with their stores opened again from the file, at any time between events.
Those who talk with them cannot tell: it is as if one bot had worked all the time with a store in
memory.
-/

namespace Colloquy

open Session (Keeper Memory StateFile Store StoreFault)

namespace World

/-- A bot is built and its store is opened from a file. -/
def openFile (path : String) (disk : Disk) (picker : Picker) :
    Except StoreFault (World StateFile) :=
  (Store.openFile path disk).map fun store => { store, picker }

/-- A bot has been built, and the file of its store is yet to be written. -/
def unwritten (path : String) (disk : Disk) (picker : Picker) : World StateFile where
  store := { keeper := ⟨path, disk⟩, snapshot := ∅ }
  picker := picker

theorem openFile_of_absent {path : String} {disk : Disk} (h : disk.has path = false)
    (picker : Picker) : openFile path disk picker = .ok (unwritten path disk picker) := by
  rw [openFile, (Store.saved_of_absent h).openFile_eq]
  rfl

def reopen (world : World StateFile) (picker : Picker) : Except StoreFault (World StateFile) :=
  (openFile world.store.keeper.path world.store.keeper.disk picker).map
    ({ · with log := world.log })

theorem reopen_of_saved {world : World StateFile} (h : world.store.Saved) (picker : Picker) :
    world.reopen picker = .ok { world with picker } := by
  rw [reopen, openFile, h.openFile_eq]
  rfl

end World

/-- An event for a session.  With a picker, it is handled by a bot that is built anew. -/
structure Visit where
  session : String
  event : Event
  anew : Option Picker

def Visit.enter (visit : Visit) (world : World StateFile) : Except StoreFault (World StateFile) :=
  match visit.anew with
  | some picker => world.reopen picker
  | none => .ok world

namespace Engine

/-- Handles visits one after another.  A visit whose store cannot be opened leads to nothing. -/
def attend (engine : Engine) :
    List Visit → World StateFile → List (Except StoreFault Turn) × World StateFile
  | [], world => ([], world)
  | visit :: visits, world =>
    match visit.enter world with
    | .error fault =>
      let (results, last) := engine.attend visits world
      (.error fault :: results, last)
    | .ok entered =>
      let (turn, next) := (⟨engine, visit.session⟩ : Conversation).turn visit.event entered
      let (results, last) := engine.attend visits next
      (.ok turn :: results, last)

def converse {κ : Type} [Keeper κ] (engine : Engine) :
    List (String × Event) → World κ → List Turn × World κ
  | [], world => ([], world)
  | (session, event) :: events, world =>
    let (turn, next) := (⟨engine, session⟩ : Conversation).turn event world
    let (turns, last) := engine.converse events next
    (turn :: turns, last)

end Engine

/-- A store in a file and one in memory hold the same, and the same has been done with them. -/
structure Mirrors (filed : World StateFile) (held : World Memory) : Prop where
  saved : filed.store.Saved
  healthy : held.store.Healthy
  snapshot : filed.store.snapshot = held.store.snapshot
  log : filed.log = held.log

namespace Conversation

variable {c : Conversation} {world after : World StateFile} {effects : List Effect}

theorem Steps.saved (h : Steps c world effects after) (hworld : world.store.Saved)
    (hkept : ¬ Failed effects) : after.store.Saved := by
  induction h with
  | stay world picker => exact hworld
  | @write world change effects after own rest ih =>
      cases houtcome : (world.write change).1 with
      | false =>
          rw [houtcome] at hkept
          exact absurd ⟨_, List.mem_cons_self, rfl⟩ hkept
      | true => exact ih (hworld.write (World.kept_write houtcome)) fun h => hkept (h.cons _)
  | deliver own rest ih => exact ih hworld fun h => hkept (h.cons _)
  | ask rest ih => exact ih hworld fun h => hkept (h.cons _)

end Conversation

namespace Mirrors

variable {filed : World StateFile} {held : World Memory}

theorem enter (h : Mirrors filed held) (visit : Visit) :
    ∃ entered, visit.enter filed = .ok entered ∧ Mirrors entered held := by
  unfold Visit.enter
  cases visit.anew with
  | none => exact ⟨filed, rfl, h⟩
  | some picker =>
      exact ⟨_, World.reopen_of_saved h.saved picker, h.saved, h.healthy, h.snapshot, h.log⟩

theorem alike (h : Mirrors filed held) (c : Conversation) : c.Alike filed.store held.store :=
  ⟨h.saved.intact, h.healthy, by rw [h.snapshot], by rw [h.snapshot]⟩

/-- An event leads to the same turn and keeps the stores the same, as long as all is kept. -/
theorem turn (h : Mirrors filed held) {c : Conversation} (hsingle : c.script.SingleReplies)
    {event : Event} (hkept : ¬ Failed (c.turn event filed).2.log) :
    (c.turn event filed).1 = (c.turn event held).1 ∧
      Mirrors (c.turn event filed).2 (c.turn event held).2 := by
  obtain ⟨effects, hfiled, hrest⟩ := (h.alike c).turn event
  have hnone : ¬ Failed effects := by
    intro hfailed
    apply hkept
    rw [hfiled.log]
    exact hfailed.append_left filed.log
  obtain ⟨hheld, _, hturn⟩ := hrest.resolve_left hnone
  refine ⟨hturn hsingle, hfiled.saved h.saved hnone, hheld.healthy h.healthy, ?_, ?_⟩
  · rw [hfiled.snapshot, hheld.snapshot, h.snapshot]
  · rw [hfiled.log, hheld.log, h.log]

end Mirrors

theorem World.log_reopen {world reopened : World StateFile} {picker : Picker}
    (h : world.reopen picker = .ok reopened) : reopened.log = world.log := by
  unfold World.reopen at h
  cases hopen : World.openFile world.store.keeper.path world.store.keeper.disk picker with
  | error fault =>
      rw [hopen] at h
      cases h
  | ok opened =>
      rw [hopen] at h
      cases h
      rfl

theorem Visit.log_enter {visit : Visit} {world entered : World StateFile}
    (h : visit.enter world = .ok entered) : entered.log = world.log := by
  unfold Visit.enter at h
  split at h
  · exact World.log_reopen h
  · cases h
    rfl

namespace Engine

variable {engine : Engine}

theorem exists_log_attend (engine : Engine) (visits : List Visit) (world : World StateFile) :
    ∃ more, (engine.attend visits world).2.log = world.log ++ more := by
  induction visits generalizing world with
  | nil => exact ⟨[], by simp [attend]⟩
  | cons visit visits ih =>
      rw [attend]
      split
      · exact ih world
      · next entered hentered =>
        obtain ⟨effects, hsteps⟩ := Conversation.reaches_handle
          (c := ⟨engine, visit.session⟩) visit.event entered
        obtain ⟨more, hmore⟩ :=
          ih ((⟨engine, visit.session⟩ : Conversation).turn visit.event entered).2
        refine ⟨effects ++ more, hmore.trans ?_⟩
        rw [← List.append_assoc, ← Visit.log_enter hentered, ← hsteps.log]
        rfl

theorem attend_of_mirrors (hsingle : engine.script.SingleReplies) {filed : World StateFile}
    {held : World Memory} (h : Mirrors filed held) (visits : List Visit)
    (hkept : ¬ Failed (engine.attend visits filed).2.log) :
    let attended := engine.attend visits filed
    let conversed := engine.converse (visits.map fun visit => (visit.session, visit.event)) held
    attended.1 = conversed.1.map .ok ∧ Mirrors attended.2 conversed.2 := by
  induction visits generalizing filed held with
  | nil => exact ⟨rfl, h⟩
  | cons visit visits ih =>
      obtain ⟨entered, hentered, hmirrors⟩ := h.enter visit
      simp only [attend, hentered] at hkept ⊢
      simp only [List.map_cons, converse]
      have hfirst : ¬ Failed
          ((⟨engine, visit.session⟩ : Conversation).turn visit.event entered).2.log := by
        intro hfailed
        obtain ⟨more, hmore⟩ := engine.exists_log_attend visits
          ((⟨engine, visit.session⟩ : Conversation).turn visit.event entered).2
        exact hkept (hmore ▸ hfailed.append_right more)
      obtain ⟨hturn, hnext⟩ := hmirrors.turn (c := ⟨engine, visit.session⟩) hsingle hfirst
      obtain ⟨hturns, hlast⟩ := ih hnext hkept
      refine ⟨?_, hlast⟩
      rw [hturn, hturns]

/-- A bot that is built anew and opens its file again before any of the events, with all changes
kept, answers, submits and stores just what one bot does with a store in memory. -/
theorem attend_eq_converse (hsingle : engine.script.SingleReplies) {path : String} {disk : Disk}
    (habsent : disk.has path = false) (first picker : Picker) (visits : List Visit)
    (hkept : ¬ Failed (engine.attend visits (.unwritten path disk first)).2.log) :
    let attended := engine.attend visits (.unwritten path disk first)
    let conversed := engine.converse (visits.map fun visit => (visit.session, visit.event))
      { store := .inMemory, picker }
    World.openFile path disk first = .ok (.unwritten path disk first) ∧
      attended.1 = conversed.1.map .ok ∧
      attended.2.submissions = conversed.2.submissions ∧
      attended.2.store.snapshot = conversed.2.store.snapshot ∧
      attended.2.store.keeper.load = .ok conversed.2.store.snapshot := by
  have hstart : Mirrors (.unwritten path disk first) { store := .inMemory, picker } :=
    ⟨Store.saved_of_absent habsent, Store.healthy_inMemory, rfl, rfl⟩
  obtain ⟨hturns, hlast⟩ := attend_of_mirrors hsingle hstart visits hkept
  refine ⟨World.openFile_of_absent habsent first, hturns, ?_, hlast.snapshot, ?_⟩
  · rw [World.submissions_eq, World.submissions_eq, hlast.log]
  · rw [hlast.saved.load_eq, hlast.snapshot]

def ticketVisits : List Visit :=
  [⟨"s", .postback "form://f", none⟩, ⟨"s", .message "1" [], some ⟨1⟩⟩,
    ⟨"t", .postback "form://f", none⟩, ⟨"s", .message "x" [], some ⟨2⟩⟩]

theorem attend_eq_converse_ticket :
    let attended := (ticketEngine "bot").attend ticketVisits
      (.unwritten "state.json" ⟨.directory [], []⟩ ⟨0⟩)
    let conversed := (ticketEngine "bot").converse
      (ticketVisits.map fun visit => (visit.session, visit.event))
      { store := .inMemory, picker := ⟨0⟩ }
    World.openFile "state.json" ⟨.directory [], []⟩ ⟨0⟩ =
        .ok (.unwritten "state.json" ⟨.directory [], []⟩ ⟨0⟩) ∧
      attended.1 = conversed.1.map .ok ∧
      attended.2.submissions = conversed.2.submissions ∧
      attended.2.store.snapshot = conversed.2.store.snapshot ∧
      attended.2.store.keeper.load = .ok conversed.2.store.snapshot := by
  refine attend_eq_converse ?_ (by decide +kernel) ⟨0⟩ ⟨0⟩ ticketVisits (by decide +kernel)
  intro template htemplate
  cases htemplate

end Engine

end Colloquy
