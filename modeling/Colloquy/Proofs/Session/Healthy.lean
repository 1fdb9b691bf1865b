import Colloquy.Session.Store

/-!
Healthy stores: none of their operations fails, now or later, so reads answer from the snapshot and
every change is kept.
-/

namespace Colloquy.Session

variable {κ : Type} [Keeper κ]

/-- A keeper that never fails, whatever it has been given before. -/
def Reliable (keeper : κ) : Prop :=
  ∀ (earlier : List Snapshot) (snapshot : Snapshot),
    (Keeper.keep (earlier.foldl (fun keeper kept => (Keeper.keep keeper kept).2) keeper)
      snapshot).1 = .ok ()

theorem Reliable.keep_ok {keeper : κ} (h : Reliable keeper) (snapshot : Snapshot) :
    (Keeper.keep keeper snapshot).1 = .ok () :=
  h [] snapshot

theorem Reliable.next {keeper : κ} (h : Reliable keeper) (snapshot : Snapshot) :
    Reliable (Keeper.keep keeper snapshot).2 :=
  fun earlier => h (snapshot :: earlier)

theorem reliable_memory (memory : Memory) : Reliable memory := fun _ _ => rfl

namespace Store

structure Healthy (store : Store κ) : Prop where
  intact : store.broken = []
  reliable : Reliable store.keeper

theorem healthy_inMemory : (inMemory : Store Memory).Healthy :=
  ⟨rfl, reliable_memory _⟩

omit [Keeper κ] in
theorem read_of_intact {store : Store κ} (h : store.broken = []) (operation : Operation) :
    store.read operation = .ok store.snapshot := by
  simp [read, h]

omit [Keeper κ] in
theorem get_of_intact {store : Store κ} (h : store.broken = []) (key : String) :
    store.get key = .ok (store.snapshot.value key) := by
  rw [get, read_of_intact h]
  rfl

omit [Keeper κ] in
theorem getHash_of_intact {store : Store κ} (h : store.broken = []) (key : String) :
    store.getHash key = .ok (store.snapshot.hash key) := by
  rw [getHash, read_of_intact h]
  rfl

omit [Keeper κ] in
theorem getHashValue_of_intact {store : Store κ} (h : store.broken = []) (key field : String) :
    store.getHashValue key field = .ok (store.snapshot.hashValue key field) := by
  rw [getHashValue, read_of_intact h]
  rfl

theorem write_of_works {store : Store κ} {change : Write}
    (h : change.operation ∉ store.broken) :
    (store.write change).1 = (Keeper.keep store.keeper (change.apply store.snapshot)).1 ∧
      (store.write change).2.keeper =
        (Keeper.keep store.keeper (change.apply store.snapshot)).2 := by
  unfold write
  rw [if_neg h]
  split
  · next hkeep => simp [hkeep]
  · next hkeep => simp [hkeep]

theorem write_of_intact {store : Store κ} (h : store.broken = []) (change : Write) :
    (store.write change).1 = (Keeper.keep store.keeper (change.apply store.snapshot)).1 ∧
      (store.write change).2.keeper =
        (Keeper.keep store.keeper (change.apply store.snapshot)).2 :=
  write_of_works (by simp [h])

theorem write_of_refused {store : Store κ} {change : Write}
    (h : change.operation ∈ store.broken) :
    store.write change = (.error (.refused change.operation), store) := by
  rw [write, if_pos h]

end Store

namespace Reliable

variable {store : Store κ} {change : Write}

/-- With a keeper that never fails, a change is made unless its operation fails. -/
theorem write_ok (h : Reliable store.keeper) (hworks : change.operation ∉ store.broken) :
    (store.write change).1 = .ok () := by
  rw [(Store.write_of_works hworks).1]
  exact h.keep_ok _

theorem snapshot_write (h : Reliable store.keeper) (hworks : change.operation ∉ store.broken) :
    (store.write change).2.snapshot = change.apply store.snapshot :=
  Store.snapshot_write_ok (h.write_ok hworks)

theorem write (h : Reliable store.keeper) (change : Write) :
    Reliable (store.write change).2.keeper := by
  by_cases hrefused : change.operation ∈ store.broken
  · rw [Store.write_of_refused hrefused]
    exact h
  · rw [(Store.write_of_works hrefused).2]
    exact h.next _

end Reliable

namespace Store

namespace Healthy

variable {store : Store κ}

theorem works (h : store.Healthy) (change : Write) : change.operation ∉ store.broken := by
  simp [h.intact]

theorem write_ok (h : store.Healthy) (change : Write) : (store.write change).1 = .ok () :=
  h.reliable.write_ok (h.works change)

theorem write (h : store.Healthy) (change : Write) : (store.write change).2.Healthy :=
  ⟨by rw [broken_write, h.intact], h.reliable.write change⟩

theorem snapshot_write (h : store.Healthy) (change : Write) :
    (store.write change).2.snapshot = change.apply store.snapshot :=
  h.reliable.snapshot_write (h.works change)

end Healthy

end Store

end Colloquy.Session
