import Colloquy.Proofs.Dialogue.Dispatch

/-!
What becomes of the answers of a session when operations of its store fail.  They are only given up
once they have been handed over for delivery, as far as they could be read.
-/

namespace Colloquy

open Session (Keeper Operation Reliable Snapshot Store Write)

namespace Conversation

variable {κ : Type} {c : Conversation}

/-- The answers in the store, whether they can be read or not. -/
def stored (c : Conversation) (store : Store κ) : Dict String :=
  store.snapshot.hash c.keys.answers

/-- What can be read of some answers. -/
def readable (answers : Dict String) (store : Store κ) : Dict String :=
  if .getHash ∈ store.broken then ∅ else answers

theorem answers_eq (store : Store κ) : c.answers store = readable (c.stored store) store := by
  unfold answers readable Store.getHash Store.read
  split
  · next h =>
    split at h
    · cases h
    · next hread =>
      rw [if_neg hread]
      exact (Except.ok.inj h).symm
  · next h =>
    split at h
    · next hread => rw [if_pos hread]
    · cases h

variable [Keeper κ] {world after : World κ} {answers : Dict String}

theorem stored_advance (path : String) (world : World κ) :
    c.stored (c.advance path world).2.store = c.stored world.store := by
  unfold stored advance
  rw [World.snapshot_write]
  split
  · cases (world.write (.delete c.keys.pointer)).1 <;> simp [Effect.replay]
  · cases (world.write (.set c.keys.pointer path)).1 <;> simp [Effect.replay]

theorem stored_forget (world : World κ) :
    c.stored (world.write (.deleteHash c.keys.answers)).2.store = c.stored world.store ∨
      c.stored (world.write (.deleteHash c.keys.answers)).2.store = ∅ := by
  unfold stored
  rw [World.snapshot_write]
  cases (world.write (.deleteHash c.keys.answers)).1 with
  | true => exact .inr (by simp [Effect.replay])
  | false => exact .inl rfl

theorem stored_reset (world : World κ) :
    c.stored (c.reset world).2.store = c.stored world.store ∨
      c.stored (c.reset world).2.store = ∅ := by
  have hreset : c.stored (c.reset world).2.store =
      c.stored (world.write (.deleteHash c.keys.answers)).2.store := stored_advance "" _
  rw [hreset]
  exact stored_forget world

/-- Some answers are in the store afterwards, or they are gone and have been delivered, as far as
they could be read. -/
def HandsOver (c : Conversation) (answers : Dict String) (world after : World κ) : Prop :=
  ∃ effects, Steps c world effects after ∧
    (c.stored after.store = answers ∨
      c.stored after.store = ∅ ∧
        ∃ reached, c.submission (readable answers world.store) reached ∈ delivered effects)

namespace HandsOver

theorem stay (world : World κ) : c.HandsOver (c.stored world.store) world world :=
  ⟨[], .refl world, .inl rfl⟩

theorem write (change : Write) (own : change.Concerns c.keys)
    (rest : c.HandsOver answers (world.write change).2 after) :
    c.HandsOver answers world after := by
  obtain ⟨effects, hsteps, hkept⟩ := rest
  refine ⟨_, .write change own hsteps, hkept.imp_right ?_⟩
  rintro ⟨hgone, reached, hdelivered⟩
  rw [readable, World.store_write, Store.broken_write] at hdelivered
  exact ⟨hgone, reached, hdelivered⟩

theorem advance (path : String)
    (rest : c.HandsOver (c.stored (c.advance path world).2.store) (c.advance path world).2 after) :
    c.HandsOver (c.stored world.store) world after := by
  rw [stored_advance] at rest
  unfold Conversation.advance at rest
  split at rest
  · exact rest.write (.delete c.keys.pointer) rfl
  · exact rest.write (.set c.keys.pointer path) rfl

end HandsOver

theorem handsOver_finalize (reached : Form) (world : World κ) :
    c.HandsOver (c.stored world.store) world (c.finalize reached world) := by
  let submission := c.submission (c.answers world.store) reached
  let noted := world.note (.deliver submission)
  have hsteps : Steps c world
      [.deliver submission,
        .write (.deleteHash c.keys.answers) (noted.write (.deleteHash c.keys.answers)).1,
        .write (.delete c.keys.pointer)
          ((noted.write (.deleteHash c.keys.answers)).2.write (.delete c.keys.pointer)).1]
      (c.finalize reached world) :=
    .deliver rfl (.write (.deleteHash c.keys.answers) rfl
      (.write (.delete c.keys.pointer) rfl (.refl _)))
  have hstored : c.stored (c.finalize reached world).store =
      c.stored (noted.write (.deleteHash c.keys.answers)).2.store := stored_advance "" _
  refine ⟨_, hsteps, ?_⟩
  rw [hstored]
  refine (stored_forget noted).imp id fun hgone => ⟨hgone, reached, ?_⟩
  rw [← answers_eq]
  exact List.mem_cons_self

theorem handsOver_complete (last : Input) (world : World κ) :
    c.HandsOver (c.stored world.store) world (c.complete last world).2 := by
  unfold complete
  split
  · exact handsOver_finalize _ world
  · exact .stay world

theorem handsOver_presentFrom (current : Input) (world : World κ) :
    c.HandsOver (c.stored world.store) world (c.presentFrom current world).2 := by
  fun_induction c.presentFrom current world with
  | case1 current world hvisible => exact .stay world
  | case2 current world hhidden hnext => exact handsOver_complete current world
  | case3 current world hhidden next hnext hkept ih => exact .advance next.path ih
  | case4 current world hhidden next hnext hlost => exact .advance next.path (.stay _)

theorem handsOver_proceed (input : Input) (world : World κ) :
    c.HandsOver (c.stored world.store) world (c.proceed input world).2 := by
  unfold proceed
  split
  · exact handsOver_complete input world
  · next next _ =>
    apply HandsOver.advance next.path
    split
    · exact handsOver_presentFrom next _
    · exact .stay _

theorem handsOver_presentForm (form : Form) (world : World κ) :
    c.HandsOver (c.stored world.store) world (c.presentForm form world).2 := by
  unfold presentForm
  dsimp only
  split
  · exact .stay world
  · next first _ =>
    split
    · exact handsOver_presentFrom _ world
    · apply HandsOver.advance first.path
      split
      · exact handsOver_presentFrom first _
      · exact .stay _

/-- The answers of a session with the one that an event gives, unless that cannot be stored. -/
def held (c : Conversation) (answer? : Option (Input × String)) (store : Store κ) : Dict String :=
  match answer? with
  | some (input, value) =>
    if .setHash ∈ store.broken then c.stored store else (c.stored store).insert input.path value
  | none => c.stored store

theorem stored_record (hreliable : Reliable world.store.keeper) (input : Input) (value : String) :
    c.stored (c.record input.path value world).2.store =
      c.held (some (input, value)) world.store := by
  by_cases hrefused : .setHash ∈ world.store.broken
  · have hstore : (c.record input.path value world).2.store = world.store :=
      congrArg Prod.snd (Store.write_of_refused hrefused)
    rw [hstore, held, if_pos hrefused]
  · have hsnapshot : (c.record input.path value world).2.store.snapshot =
        Write.apply world.store.snapshot (.setHash c.keys.answers input.path value) :=
      hreliable.snapshot_write hrefused
    rw [stored, hsnapshot, held, if_neg hrefused, Snapshot.hash_setHash, if_pos rfl, stored]

theorem Comes.handsOver (hreliable : Reliable world.store.keeper)
    {answer? : Option (Input × String)} {result : List Message × World κ}
    (h : c.Comes world answer? result) :
    c.HandsOver (c.held answer? world.store) world result.2 := by
  cases h with
  | @answer input value hpending =>
      rw [answer_eq_proceed, ← stored_record hreliable]
      exact (handsOver_proceed input _).write (.setHash c.keys.answers input.path value) rfl
  | @present form declared => exact handsOver_presentForm form world
  | idle idles =>
      obtain ⟨hstore, effects, hsteps, _⟩ := idles
      exact ⟨effects, hsteps, .inl (congrArg c.stored hstore)⟩

end Conversation

end Colloquy
