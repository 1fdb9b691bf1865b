import Colloquy.Dialogue.Conversation
import Colloquy.Proofs.Session.Healthy

/-!
What a session does to its world, effect by effect.  Whatever an event brings about is a sequence of
changes under the session's own keys, deliveries in its name and questions to the composer, all of
which the log tells.
-/

namespace Colloquy

open Session (Keeper Keys Snapshot Store Write)

/-- The change is made where the keys point. -/
def Session.Write.Concerns (keys : Keys) : Write → Prop
  | .set key _ => key = keys.pointer
  | .delete key => key = keys.pointer
  | .setHash key _ _ => key = keys.answers
  | .deleteHash key => key = keys.answers

/-- The snapshot after an effect; a change counts only if it was kept. -/
def Effect.replay (snapshot : Snapshot) : Effect → Snapshot
  | .write change true => change.apply snapshot
  | _ => snapshot

def Effect.failed : Effect → Bool
  | .write _ kept => !kept
  | _ => false

/-- Some change was not kept. -/
def Failed (effects : List Effect) : Prop := ∃ effect ∈ effects, effect.failed = true

instance (effects : List Effect) : Decidable (Failed effects) :=
  inferInstanceAs (Decidable (∃ effect ∈ effects, effect.failed = true))

namespace Failed

variable {effects : List Effect}

theorem append_left (h : Failed effects) (before : List Effect) : Failed (before ++ effects) := by
  obtain ⟨effect, heffect, hfailed⟩ := h
  exact ⟨effect, List.mem_append_right before heffect, hfailed⟩

theorem append_right (h : Failed effects) (more : List Effect) : Failed (effects ++ more) := by
  obtain ⟨effect, heffect, hfailed⟩ := h
  exact ⟨effect, List.mem_append_left more heffect, hfailed⟩

theorem cons (h : Failed effects) (effect : Effect) : Failed (effect :: effects) :=
  h.append_left [effect]

end Failed

namespace World

variable {κ : Type} [Keeper κ]

theorem log_write (world : World κ) (change : Write) :
    (world.write change).2.log = world.log ++ [.write change (world.write change).1] := rfl

theorem write_of_healthy {world : World κ} (h : world.store.Healthy) (change : Write) :
    (world.write change).1 = true := by
  simp [write, h.write_ok change, Except.toBool]

/-- The log tells truly whether a change was kept. -/
theorem snapshot_write (world : World κ) (change : Write) :
    (world.write change).2.store.snapshot =
      Effect.replay world.store.snapshot (.write change (world.write change).1) := by
  cases houtcome : (world.store.write change).1 with
  | ok =>
      rw [store_write, Store.snapshot_write_ok houtcome]
      simp [write, houtcome, Except.toBool, Effect.replay]
  | error fault =>
      rw [store_write, Store.snapshot_write_error houtcome]
      simp [write, houtcome, Except.toBool, Effect.replay]

end World

namespace Conversation

variable {κ : Type} [Keeper κ] {c : Conversation}

theorem presentFrom_of_visible {current : Input} {world : World κ}
    (h : c.isVisible current world.store = true) :
    c.presentFrom current world = (c.script.ask current, world) := by
  rw [presentFrom, if_pos h]

/-- Leaves an input behind, because it has been answered or because it is hidden. -/
def proceed (c : Conversation) (input : Input) (world : World κ) : List Message × World κ :=
  match c.next? world.store with
  | none => c.complete input world
  | some next =>
    if (c.advance next.path world).1 = true then c.presentFrom next (c.advance next.path world).2
    else (c.errorMessages, (c.advance next.path world).2)

theorem answer_eq_proceed (input : Input) (value : String) (world : World κ) :
    c.answer input value world = c.proceed input (c.record input.path value world).2 := rfl

theorem presentFrom_of_hidden {current : Input} {world : World κ}
    (h : ¬ c.isVisible current world.store = true) :
    c.presentFrom current world = c.proceed current world := by
  rw [presentFrom, if_neg h, proceed]
  split
  · next hnone => simp [hnone]
  · next next hnext => simp [hnext]

theorem proceed_of_none {input : Input} {world : World κ} (h : c.next? world.store = none) :
    c.proceed input world = c.complete input world := by
  rw [proceed, h]

theorem proceed_of_kept {input next : Input} {world : World κ}
    (h : c.next? world.store = some next) (hkept : (c.advance next.path world).1 = true) :
    c.proceed input world = c.presentFrom next (c.advance next.path world).2 := by
  simp [proceed, h, hkept]

theorem proceed_of_lost {input next : Input} {world : World κ}
    (h : c.next? world.store = some next) (hlost : ¬ (c.advance next.path world).1 = true) :
    c.proceed input world = (c.errorMessages, (c.advance next.path world).2) := by
  simp [proceed, h, hlost]

/-- From one world to another, the session has brought about the effects, one after another. -/
inductive Steps (c : Conversation) : World κ → List Effect → World κ → Prop where
  /-- Drawing from the picker leaves no trace in the log. -/
  | stay (world : World κ) (picker : Picker) : Steps c world [] { world with picker }
  | write {world : World κ} (change : Write) {effects : List Effect} {after : World κ}
      (own : change.Concerns c.keys) (rest : Steps c (world.write change).2 effects after) :
      Steps c world (.write change (world.write change).1 :: effects) after
  | deliver {world : World κ} {submission : Submission} {effects : List Effect}
      {after : World κ} (own : submission.session = c.session)
      (rest : Steps c (world.note (.deliver submission)) effects after) :
      Steps c world (.deliver submission :: effects) after
  | ask {world : World κ} {url : String} {effects : List Effect} {after : World κ}
      (rest : Steps c (world.note (.ask url)) effects after) :
      Steps c world (.ask url :: effects) after

namespace Steps

variable {world after final : World κ} {effects more : List Effect}

theorem refl (world : World κ) : Steps c world [] world := .stay world world.picker

theorem log (h : Steps c world effects after) : after.log = world.log ++ effects := by
  induction h with
  | stay world picker => simp
  | write change own rest ih => simp [ih, World.log_write]
  | deliver own rest ih => simp [ih]
  | ask rest ih => simp [ih]

theorem snapshot (h : Steps c world effects after) :
    after.store.snapshot = effects.foldl Effect.replay world.store.snapshot := by
  induction h with
  | stay world picker => rfl
  | write change own rest ih => rw [ih, World.snapshot_write, List.foldl_cons]
  | deliver own rest ih => exact ih
  | ask rest ih => exact ih

theorem broken (h : Steps c world effects after) : after.store.broken = world.store.broken := by
  induction h with
  | stay world picker => rfl
  | write change own rest ih => rw [ih, World.store_write, Store.broken_write]
  | deliver own rest ih => exact ih
  | ask rest ih => exact ih

theorem healthy (h : Steps c world effects after) (hworld : world.store.Healthy) :
    after.store.Healthy := by
  induction h with
  | stay world picker => exact hworld
  | write change own rest ih => exact ih (hworld.write _)
  | deliver own rest ih => exact ih hworld
  | ask rest ih => exact ih hworld

theorem not_failed (h : Steps c world effects after) (hworld : world.store.Healthy) :
    ¬ Failed effects := by
  rintro ⟨effect, heffect, hfailed⟩
  induction h with
  | stay world picker => cases heffect
  | @write world change effects after own rest ih =>
      rcases List.mem_cons.mp heffect with rfl | hrest
      · simp [Effect.failed, World.write_of_healthy hworld] at hfailed
      · exact ih (hworld.write change) hrest
  | deliver own rest ih =>
      rcases List.mem_cons.mp heffect with rfl | hrest
      · cases hfailed
      · exact ih hworld hrest
  | ask rest ih =>
      rcases List.mem_cons.mp heffect with rfl | hrest
      · cases hfailed
      · exact ih hworld hrest

/-- A session leaves the entries of all other keys alone. -/
theorem values_frame (h : Steps c world effects after) {key : String}
    (hkey : key ≠ c.keys.pointer) :
    after.store.snapshot.values.get? key = world.store.snapshot.values.get? key := by
  induction h with
  | stay world picker => rfl
  | @write world change effects after own rest ih =>
      rw [ih, World.snapshot_write]
      cases change <;> cases (world.write _).1 <;>
        simp_all [Effect.replay, Write.apply, Session.Write.Concerns, eq_comm]
  | deliver own rest ih => exact ih
  | ask rest ih => exact ih

theorem hashes_frame (h : Steps c world effects after) {key : String}
    (hkey : key ≠ c.keys.answers) :
    after.store.snapshot.hashes.get? key = world.store.snapshot.hashes.get? key := by
  induction h with
  | stay world picker => rfl
  | @write world change effects after own rest ih =>
      rw [ih, World.snapshot_write]
      cases change <;> cases (world.write _).1 <;>
        simp_all [Effect.replay, Write.apply, Session.Write.Concerns, eq_comm]
  | deliver own rest ih => exact ih
  | ask rest ih => exact ih

end Steps

def Reaches (c : Conversation) (world after : World κ) : Prop :=
  ∃ effects, Steps c world effects after

section

variable {world after : World κ}

theorem Reaches.refl (world : World κ) : c.Reaches world world := ⟨[], .refl world⟩

theorem Reaches.write (change : Write) (own : change.Concerns c.keys)
    (rest : c.Reaches (world.write change).2 after) : c.Reaches world after := by
  obtain ⟨effects, hsteps⟩ := rest
  exact ⟨_, .write change own hsteps⟩

theorem Reaches.advance (path : String) (rest : c.Reaches (c.advance path world).2 after) :
    c.Reaches world after := by
  unfold Conversation.advance at rest
  split at rest
  · exact .write (.delete c.keys.pointer) rfl rest
  · exact .write (.set c.keys.pointer path) rfl rest

theorem reaches_reset (rest : c.Reaches (c.reset world).2 after) : c.Reaches world after := by
  have hadvance : c.Reaches (world.write (.deleteHash c.keys.answers)).2 after :=
    .advance "" rest
  exact .write (.deleteHash c.keys.answers) rfl hadvance

theorem reaches_finalize (reached : Form) (world : World κ) :
    c.Reaches world (c.finalize reached world) := by
  have hclosing : c.Reaches (world.note (.deliver (c.submission (c.answers world.store) reached)))
      (c.finalize reached world) := by
    apply Reaches.write (.deleteHash c.keys.answers) rfl
    apply Reaches.advance ""
    exact .refl _
  obtain ⟨effects, hsteps⟩ := hclosing
  exact ⟨_, .deliver rfl hsteps⟩

theorem reaches_complete (last : Input) (world : World κ) :
    c.Reaches world (c.complete last world).2 := by
  unfold complete
  split
  · exact reaches_finalize _ world
  · exact .refl world

theorem reaches_presentFrom (current : Input) (world : World κ) :
    c.Reaches world (c.presentFrom current world).2 := by
  fun_induction c.presentFrom current world with
  | case1 current world hvisible => exact .refl world
  | case2 current world hhidden hnext => exact reaches_complete current world
  | case3 current world hhidden next hnext hkept ih => exact .advance _ ih
  | case4 current world hhidden next hnext hlost => exact .advance _ (.refl _)

theorem reaches_presentForm (form : Form) (world : World κ) :
    c.Reaches world (c.presentForm form world).2 := by
  unfold presentForm
  dsimp only
  split
  · exact .refl world
  · next first _ =>
    split
    · exact reaches_presentFrom _ world
    · apply Reaches.advance first.path
      split
      · exact reaches_presentFrom first _
      · exact .refl _

theorem reaches_proceed (input : Input) (world : World κ) :
    c.Reaches world (c.proceed input world).2 := by
  unfold proceed
  split
  · exact reaches_complete input world
  · next next _ =>
    apply Reaches.advance next.path
    split
    · exact reaches_presentFrom next _
    · exact .refl _

theorem reaches_answer (input : Input) (value : String) (world : World κ) :
    c.Reaches world (c.answer input value world).2 := by
  apply Reaches.write (.setHash c.keys.answers input.path value) rfl
  exact reaches_proceed input (c.record input.path value world).2

theorem reaches_reply (content : String) (world : World κ) :
    c.Reaches world (c.engine.reply content world).2 := by
  unfold Engine.reply
  split
  · exact ⟨[], .stay world _⟩
  · split
    · exact ⟨_, .ask (.refl _)⟩
    · exact .refl world

theorem reaches_handleMessage (content : String) (attachments : List String) (world : World κ) :
    c.Reaches world (c.handleMessage content attachments world).2 := by
  unfold handleMessage
  split
  · exact reaches_reply content world
  · split
    · exact reaches_answer _ content world
    · split
      · exact reaches_answer _ _ world
      · exact .refl world
    · exact .refl world
    · exact .refl world

theorem reaches_handleOption (token : Routing.Token) (world : World κ) :
    c.Reaches world (c.handleOption token world).2 := by
  unfold handleOption
  split
  · exact .refl world
  · split
    · split
      · exact .refl world
      · split
        · exact reaches_answer _ _ world
        · exact .refl world
    · exact .refl world
    · exact .refl world
    · exact .refl world

theorem reaches_follow (token : Routing.Token) (world : World κ) :
    c.Reaches world (c.follow token world).2 := by
  unfold follow
  split
  · split <;> exact .refl world
  · split
    · exact reaches_presentForm _ world
    · exact .refl world
  · exact reaches_handleOption token world
  · exact .refl world

theorem reaches_handlePostback (payload : String) (world : World κ) :
    c.Reaches world (c.handlePostback payload world).2 := by
  unfold handlePostback
  split
  · exact .refl world
  · split
    · exact .refl world
    · next token _ =>
      by_cases hreset : token.requestsReset = true
      · rw [if_pos hreset]
        exact reaches_reset (reaches_follow token _)
      · rw [if_neg hreset]
        exact reaches_follow token world

/-- Whatever an event brings about, the session does it step by step. -/
theorem reaches_handle (event : Event) (world : World κ) :
    c.Reaches world (c.handle event world).2 := by
  cases event with
  | optIn => exact .refl world
  | message content attachments => exact reaches_handleMessage content attachments world
  | postback payload => exact reaches_handlePostback payload world

end

end Conversation

end Colloquy
