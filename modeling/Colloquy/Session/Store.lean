import Colloquy.Disk.Basic
import Colloquy.Report
import Colloquy.Session.Snapshot

/-!
Session stores.  A store answers from its snapshot; a change counts only once the keeper of the
store has kept the changed snapshot, so a change that fails leaves everything as it was.
-/

namespace Colloquy.Session

inductive Operation where
  | get
  | set
  | delete
  | setHash
  | getHashValue
  | getHash
  | deleteHash
deriving DecidableEq, Repr

inductive StoreFault where
  | unreadable (path : String) (fault : DiskFault)
  | invalid (path source : String) (fault : Json.Fault)
  | unwritable (path : String) (fault : DiskFault)
  | refused (operation : Operation)
deriving DecidableEq, Repr

def StoreFault.report : StoreFault → Report
  | .unreadable path fault => ⟨"STORE_READ", s!"{path}: {fault.message}", none⟩
  | .invalid path source fault => ⟨"STORE_INVALID", s!"{path}: {fault.message source}", none⟩
  | .unwritable path fault => ⟨"STORE_WRITE", s!"{path}: {fault.message}", none⟩
  | .refused _ => ⟨"STORE_REFUSED", "Session store is out of order.", none⟩

/-- Keeps the snapshots of a store, so that it can be opened again. -/
class Keeper (κ : Type) where
  keep : κ → Snapshot → Except StoreFault Unit × κ

/-- Keeps nothing. -/
structure Memory where
deriving DecidableEq, Repr

instance : Keeper Memory where
  keep memory _ := (.ok (), memory)

/-- Keeps the snapshot in a file, as JSON. -/
structure StateFile where
  path : String
  disk : Disk

namespace StateFile

instance : Keeper StateFile where
  keep file snapshot :=
    match file.disk.save file.path snapshot.toJson.pretty with
    | (.ok (), disk) => (.ok (), { file with disk })
    | (.error fault, disk) => (.error (.unwritable file.path fault), { file with disk })

/-- The snapshot in the file; a file that does not exist stands for the empty one. -/
def load (file : StateFile) : Except StoreFault Snapshot :=
  if file.disk.has file.path then
    match file.disk.readText file.path with
    | .error fault => .error (.unreadable file.path fault)
    | .ok source =>
      match Json.read Snapshot.reader source with
      | .ok snapshot => .ok snapshot
      | .error fault => .error (.invalid file.path source fault)
  else .ok ∅

end StateFile

structure Store (κ : Type) where
  keeper : κ
  snapshot : Snapshot
  /-- The operations that fail. -/
  broken : List Operation := []

def Write.operation : Write → Operation
  | .set .. => .set
  | .delete .. => .delete
  | .setHash .. => .setHash
  | .deleteHash .. => .deleteHash

namespace Store

variable {κ : Type}

def inMemory : Store Memory := { keeper := {}, snapshot := ∅ }

def openFile (path : String) (disk : Disk) : Except StoreFault (Store StateFile) :=
  let file : StateFile := ⟨path, disk⟩
  file.load.map fun snapshot => { keeper := file, snapshot }

def read (store : Store κ) (operation : Operation) : Except StoreFault Snapshot :=
  if operation ∈ store.broken then .error (.refused operation) else .ok store.snapshot

def get (store : Store κ) (key : String) : Except StoreFault String :=
  (store.read .get).map (·.value key)

def getHash (store : Store κ) (key : String) : Except StoreFault (Dict String) :=
  (store.read .getHash).map (·.hash key)

def getHashValue (store : Store κ) (key field : String) : Except StoreFault String :=
  (store.read .getHashValue).map (·.hashValue key field)

def write [Keeper κ] (store : Store κ) (change : Write) : Except StoreFault Unit × Store κ :=
  if change.operation ∈ store.broken then (.error (.refused change.operation), store)
  else
    match Keeper.keep store.keeper (change.apply store.snapshot) with
    | (.ok (), keeper) => (.ok (), { store with keeper, snapshot := change.apply store.snapshot })
    | (.error fault, keeper) => (.error fault, { store with keeper })

@[simp] theorem broken_write [Keeper κ] (store : Store κ) (change : Write) :
    (store.write change).2.broken = store.broken := by
  unfold write
  split
  · rfl
  · split <;> rfl

theorem snapshot_write_ok [Keeper κ] {store : Store κ} {change : Write}
    (h : (store.write change).1 = .ok ()) :
    (store.write change).2.snapshot = change.apply store.snapshot := by
  unfold write at h ⊢
  split at h
  · cases h
  · next hbroken =>
    simp only [hbroken, if_false]
    split <;> simp_all

theorem snapshot_write_error [Keeper κ] {store : Store κ} {change : Write} {fault : StoreFault}
    (h : (store.write change).1 = .error fault) :
    (store.write change).2.snapshot = store.snapshot := by
  unfold write at h ⊢
  split
  · rfl
  · next hbroken =>
    simp only [hbroken, if_false] at h
    split at h <;> simp_all

end Store

end Colloquy.Session
