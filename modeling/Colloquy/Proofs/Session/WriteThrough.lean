import Colloquy.Proofs.Session.Saved

/-!
A store in a file is a store in memory whose changes are written through to the file.  Any of its
writes may fail; a failed one leaves the store and the file as they were, so that only the changes
that succeed count, and the file can be opened again at any time.
-/

namespace Colloquy.Session

namespace StateFile

/-- The file after snapshots have been given to it, kept or not. -/
def given (file : StateFile) (snapshots : List Snapshot) : StateFile :=
  snapshots.foldl (fun file snapshot => (Keeper.keep file snapshot).2) file

theorem given_cons (file : StateFile) (snapshot : Snapshot) (later : List Snapshot) :
    file.given (snapshot :: later) = given (Keeper.keep file snapshot).2 later := rfl

/-- Whenever a snapshot cannot be kept, the file is left as it was. -/
def Steady (file : StateFile) : Prop :=
  ∀ (earlier : List Snapshot) (snapshot : Snapshot) (fault : StoreFault),
    (Keeper.keep (file.given earlier) snapshot).1 = .error fault →
      (Keeper.keep (file.given earlier) snapshot).2.load = (file.given earlier).load

variable {file : StateFile}

theorem Steady.load_eq (h : file.Steady) {snapshot : Snapshot} {fault : StoreFault}
    (hfault : (Keeper.keep file snapshot).1 = .error fault) :
    (Keeper.keep file snapshot).2.load = file.load := by
  have hfile : file.given [] = file := rfl
  have hfirst := h [] snapshot fault
  rw [hfile] at hfirst
  exact hfirst hfault

theorem Steady.next (h : file.Steady) (snapshot : Snapshot) :
    Steady (Keeper.keep file snapshot).2 := by
  intro earlier
  rw [← given_cons]
  exact h (snapshot :: earlier)

end StateFile

/-- A file with troubles ahead: which of the coming writes are thwarted, and by what. -/
structure TroubledFile where
  file : StateFile
  troubles : Nat → Option DiskFault

namespace TroubledFile

def pass (troubled : TroubledFile) : Nat → Option DiskFault :=
  fun count => troubled.troubles (count + 1)

instance : Keeper TroubledFile where
  keep troubled snapshot :=
    match troubled.troubles 0 with
    | some fault => (.error (.unwritable troubled.file.path fault), ⟨troubled.file, troubled.pass⟩)
    | none =>
      let (outcome, file) := Keeper.keep troubled.file snapshot
      (outcome, ⟨file, troubled.pass⟩)

/-- The next write is not thwarted, and the disk takes it. -/
def Writes (troubled : TroubledFile) (snapshot : Snapshot) : Prop :=
  troubled.troubles 0 = none ∧
    (troubled.file.disk.save troubled.file.path snapshot.toJson.pretty).1 = .ok ()

variable {troubled : TroubledFile} {snapshot : Snapshot}

theorem keep_of_trouble {fault : DiskFault} (h : troubled.troubles 0 = some fault) :
    Keeper.keep troubled snapshot =
      (.error (.unwritable troubled.file.path fault), ⟨troubled.file, troubled.pass⟩) := by
  simp [Keeper.keep, h]

theorem keep_of_calm (h : troubled.troubles 0 = none) :
    Keeper.keep troubled snapshot =
      ((Keeper.keep troubled.file snapshot).1,
        ⟨(Keeper.keep troubled.file snapshot).2, troubled.pass⟩) := by
  simp [Keeper.keep, h]

theorem keep_ok_iff : (Keeper.keep troubled snapshot).1 = .ok () ↔ troubled.Writes snapshot := by
  cases htrouble : troubled.troubles 0 with
  | some fault => simp [keep_of_trouble htrouble, Writes, htrouble]
  | none =>
      simp only [keep_of_calm htrouble, Writes, htrouble, true_and]
      simp only [Keeper.keep]
      split
      · next hsave => simp [hsave]
      · next hsave => simp [hsave]

theorem steady_keep (h : troubled.file.Steady) (snapshot : Snapshot) :
    (Keeper.keep troubled snapshot).2.file.Steady := by
  cases htrouble : troubled.troubles 0 with
  | some fault => simpa [keep_of_trouble htrouble] using h
  | none => simpa [keep_of_calm htrouble] using h.next snapshot

theorem load_keep_ok (h : (Keeper.keep troubled snapshot).1 = .ok ()) :
    (Keeper.keep troubled snapshot).2.file.load = .ok snapshot := by
  cases htrouble : troubled.troubles 0 with
  | some fault => simp [keep_of_trouble htrouble] at h
  | none =>
      simp only [keep_of_calm htrouble] at h ⊢
      exact troubled.file.load_keep snapshot h

theorem load_keep_error (hsteady : troubled.file.Steady) {fault : StoreFault}
    (h : (Keeper.keep troubled snapshot).1 = .error fault) :
    (Keeper.keep troubled snapshot).2.file.load = troubled.file.load := by
  cases htrouble : troubled.troubles 0 with
  | some fault => rw [keep_of_trouble htrouble]
  | none =>
      simp only [keep_of_calm htrouble] at h ⊢
      exact hsteady.load_eq h

end TroubledFile

/-!
What can be asked of a store, and what a store in a file can be told to do.
-/

inductive Query where
  | value (key : String)
  | hashValue (key field : String)
  | hash (key : String)

inductive Answer where
  | text (value : Except StoreFault String)
  | table (hash : Except StoreFault (Dict String))

def Store.answer {κ : Type} (store : Store κ) : Query → Answer
  | .value key => .text (store.get key)
  | .hashValue key field => .text (store.getHashValue key field)
  | .hash key => .table (store.getHash key)

inductive Call where
  | ask (query : Query)
  | write (change : Write)
  | reopen

inductive Outcome where
  | answered (answer : Answer)
  | written (result : Except StoreFault Unit)
  | reopened (result : Except StoreFault Unit)

namespace Store

def openTroubled (path : String) (disk : Disk) (troubles : Nat → Option DiskFault) :
    Except StoreFault (Store TroubledFile) :=
  (openFile path disk).map fun store =>
    { keeper := ⟨store.keeper, troubles⟩, snapshot := store.snapshot }

/-- Does what it is told.  A store whose file cannot be opened again stays as it is. -/
def perform (store : Store TroubledFile) : Call → Outcome × Store TroubledFile
  | .ask query => (.answered (store.answer query), store)
  | .write change => (.written (store.write change).1, (store.write change).2)
  | .reopen =>
    let file := store.keeper.file
    match openTroubled file.path file.disk store.keeper.troubles with
    | .ok opened => (.reopened (.ok ()), opened)
    | .error fault => (.reopened (.error fault), store)

def run : List Call → Store TroubledFile → List Outcome × Store TroubledFile
  | [], store => ([], store)
  | call :: calls, store =>
    let (outcome, next) := store.perform call
    let (outcomes, last) := run calls next
    (outcome :: outcomes, last)

/-- The change that a call made, if it was one that succeeded. -/
def made? : Call × Outcome → Option Write
  | (.write change, .written (.ok ())) => some change
  | _ => none

/-- A store in memory after the changes that were made. -/
def remember (held : Store Memory) (changes : List Write) : Store Memory :=
  changes.foldl (fun held change => (held.write change).2) held

/-- A store in a file and one in memory hold the same, and so does the file. -/
structure Through (held : Store Memory) (store : Store TroubledFile) : Prop where
  intact : store.broken = []
  steady : store.keeper.file.Steady
  load_eq : store.keeper.file.load = .ok store.snapshot
  healthy : held.Healthy
  snapshot : store.snapshot = held.snapshot

namespace Through

variable {held : Store Memory} {store : Store TroubledFile}

theorem answer_eq (h : Through held store) (query : Query) :
    store.answer query = held.answer query := by
  cases query with
  | value key =>
      simp only [answer, get_of_intact h.intact, get_of_intact h.healthy.intact, h.snapshot]
  | hashValue key field =>
      simp only [answer, getHashValue_of_intact h.intact,
        getHashValue_of_intact h.healthy.intact, h.snapshot]
  | hash key =>
      simp only [answer, getHash_of_intact h.intact, getHash_of_intact h.healthy.intact,
        h.snapshot]

theorem write_ok_iff (h : Through held store) (change : Write) :
    (store.write change).1 = .ok () ↔ store.keeper.Writes (change.apply store.snapshot) := by
  rw [(write_of_intact h.intact change).1]
  exact TroubledFile.keep_ok_iff

theorem write_made (h : Through held store) {change : Write}
    (hmade : (store.write change).1 = .ok ()) :
    Through (held.write change).2 (store.write change).2 := by
  obtain ⟨houtcome, hkeeper⟩ := write_of_intact h.intact change
  refine ⟨by rw [broken_write, h.intact], ?_, ?_, h.healthy.write change, ?_⟩
  · rw [hkeeper]
    exact TroubledFile.steady_keep h.steady _
  · rw [hkeeper, snapshot_write_ok hmade]
    exact TroubledFile.load_keep_ok (houtcome ▸ hmade)
  · rw [snapshot_write_ok hmade, h.healthy.snapshot_write, h.snapshot]

theorem load_write_failed (h : Through held store) {change : Write} {fault : StoreFault}
    (hfailed : (store.write change).1 = .error fault) :
    (store.write change).2.keeper.file.load = store.keeper.file.load := by
  obtain ⟨houtcome, hkeeper⟩ := write_of_intact h.intact change
  rw [hkeeper]
  exact TroubledFile.load_keep_error h.steady (houtcome ▸ hfailed)

theorem write_failed (h : Through held store) {change : Write} {fault : StoreFault}
    (hfailed : (store.write change).1 = .error fault) :
    Through held (store.write change).2 := by
  refine ⟨by rw [broken_write, h.intact], ?_, ?_, h.healthy, ?_⟩
  · rw [(write_of_intact h.intact change).2]
    exact TroubledFile.steady_keep h.steady _
  · rw [h.load_write_failed hfailed, snapshot_write_error hfailed, h.load_eq]
  · rw [snapshot_write_error hfailed, h.snapshot]

theorem openTroubled_eq (h : Through held store) :
    openTroubled store.keeper.file.path store.keeper.file.disk store.keeper.troubles =
      .ok store := by
  obtain ⟨⟨⟨path, disk⟩, troubles⟩, snapshot, broken⟩ := store
  obtain rfl : broken = [] := h.intact
  have hsaved : Saved { keeper := ⟨path, disk⟩, snapshot } := ⟨rfl, h.load_eq⟩
  simp [openTroubled, hsaved.openFile_eq, Except.map]

theorem perform_reopen (h : Through held store) :
    store.perform .reopen = (.reopened (.ok ()), store) := by
  simp [perform, h.openTroubled_eq]

/-- One call keeps the stores the same, if the one in memory takes part in a change that is made. -/
theorem perform (h : Through held store) (call : Call) :
    Through (held.remember (made? (call, (store.perform call).1)).toList)
      (store.perform call).2 := by
  cases call with
  | ask query => exact h
  | reopen =>
      rw [h.perform_reopen]
      exact h
  | write change =>
      cases houtcome : (store.write change).1 with
      | ok =>
          simp only [Store.perform, houtcome]
          exact h.write_made houtcome
      | error fault =>
          simp only [Store.perform, houtcome]
          exact h.write_failed houtcome

theorem run (h : Through held store) (calls : List Call) :
    Through (held.remember ((calls.zip (store.run calls).1).filterMap made?))
      (store.run calls).2 := by
  induction calls generalizing held store with
  | nil => exact h
  | cons call calls ih =>
      have hrest := ih (h.perform call)
      simp only [Store.run, List.zip_cons_cons, List.filterMap_cons]
      cases hmade : made? (call, (store.perform call).1) with
      | none =>
          rw [hmade] at hrest
          exact hrest
      | some change =>
          rw [hmade] at hrest
          exact hrest

end Through

/-- What a call comes to if all is well: an answer is that of a store in memory, a change is made
if and only if it is written, and else nothing changes, as when the file is opened again. -/
def Faithful (held : Store Memory) (store : Store TroubledFile) : Call → Prop
  | .ask query => store.perform (.ask query) = (.answered (held.answer query), store)
  | .write change =>
    ((store.perform (.write change)).1 = .written (.ok ()) ↔
        store.keeper.Writes (change.apply store.snapshot)) ∧
      ((store.perform (.write change)).1 ≠ .written (.ok ()) →
        (store.perform (.write change)).2.snapshot = store.snapshot ∧
          (store.perform (.write change)).2.keeper.file.load = store.keeper.file.load)
  | .reopen => store.perform .reopen = (.reopened (.ok ()), store)

theorem Through.faithful {held : Store Memory} {store : Store TroubledFile}
    (h : Through held store) (call : Call) : Faithful held store call := by
  cases call with
  | ask query => simp [Faithful, Store.perform, h.answer_eq query]
  | reopen => exact h.perform_reopen
  | write change =>
      refine ⟨by simp [Store.perform, h.write_ok_iff change], fun hlost => ?_⟩
      cases houtcome : (store.write change).1 with
      | ok => exact absurd (congrArg Outcome.written houtcome) hlost
      | error fault => exact ⟨snapshot_write_error houtcome, h.load_write_failed houtcome⟩

/-- Opened on a file that does not exist, a store is after any calls, whichever of its writes
failed, what a store in memory is after the changes that were made; so is the file; and whatever
call comes next, it comes to what it would there. -/
theorem run_through {path : String} {disk : Disk} (habsent : disk.has path = false)
    (hsteady : StateFile.Steady ⟨path, disk⟩) (troubles : Nat → Option DiskFault)
    (calls : List Call) :
    ∃ opened, openTroubled path disk troubles = .ok opened ∧
      let outcomes := (opened.run calls).1
      let store := (opened.run calls).2
      let held := inMemory.remember ((calls.zip outcomes).filterMap made?)
      store.keeper.file.load = .ok store.snapshot ∧ store.snapshot = held.snapshot ∧
        ∀ call, Faithful held store call := by
  have hopened : openTroubled path disk troubles =
      .ok { keeper := ⟨⟨path, disk⟩, troubles⟩, snapshot := ∅ } := by
    simp [openTroubled, (saved_of_absent habsent).openFile_eq, Except.map]
  have hstart : Through inMemory { keeper := ⟨⟨path, disk⟩, troubles⟩, snapshot := ∅ } :=
    ⟨rfl, hsteady, (saved_of_absent habsent).load_eq, healthy_inMemory, rfl⟩
  have hlast := hstart.run calls
  exact ⟨_, hopened, hlast.load_eq, hlast.snapshot, hlast.faithful⟩

/-- A file in the working directory of a disk without other files, or its absence. -/
def stateFile (content? : Option ByteArray) : StateFile where
  path := "state.json"
  disk := ⟨.directory (content?.toList.map fun content => ("state.json", .file content)), []⟩

theorem save_stateFile (content? : Option ByteArray) (written : String) :
    (stateFile content?).disk.save (stateFile content?).path written =
      (.ok (), (stateFile (some written.toUTF8)).disk) := by
  cases content? with
  | none => rfl
  | some content =>
      simp only [stateFile, Option.toList_some, List.map_cons, List.map_nil]
      rfl

theorem keep_stateFile (content? : Option ByteArray) (snapshot : Snapshot) :
    Keeper.keep (stateFile content?) snapshot =
      (.ok (), stateFile (some snapshot.toJson.pretty.toUTF8)) := by
  simp only [Keeper.keep, save_stateFile]
  rfl

theorem given_stateFile (content? : Option ByteArray) (snapshots : List Snapshot) :
    ∃ last?, (stateFile content?).given snapshots = stateFile last? := by
  induction snapshots generalizing content? with
  | nil => exact ⟨content?, rfl⟩
  | cons snapshot later ih =>
      rw [StateFile.given_cons, keep_stateFile]
      exact ih _

theorem steady_stateFile : (stateFile none).Steady := by
  intro earlier snapshot fault hfault
  obtain ⟨last?, hlast⟩ := given_stateFile none earlier
  rw [hlast, keep_stateFile] at hfault
  cases hfault

theorem run_through_second_lost :
    ∃ opened, openTroubled "state.json" (stateFile none).disk
        (fun count => if count = 1 then some .notDirectory else none) = .ok opened ∧
      let calls : List Call := [.write (.setHash "bot:session:1:answer" "f/a" "\x22\n\x00ü"),
        .write (.set "" "f/a"), .reopen, .write (.deleteHash "bot:session:1:answer")]
      let outcomes := (opened.run calls).1
      let store := (opened.run calls).2
      let held := inMemory.remember ((calls.zip outcomes).filterMap made?)
      store.keeper.file.load = .ok store.snapshot ∧ store.snapshot = held.snapshot ∧
        ∀ call, Faithful held store call :=
  @run_through "state.json" (stateFile none).disk (by decide +kernel) steady_stateFile _ _

end Store

end Colloquy.Session
