import Colloquy.Proofs.Disk.Saved
import Colloquy.Proofs.Json.ReadBack
import Colloquy.Proofs.Session.Healthy

/-!
Stores in files: what the file tells is what the store holds, so nothing is lost if it is opened
again.
-/

namespace Colloquy.Session

namespace Snapshot

open Json (Reads Style)

theorem reads_reader (snapshot : Snapshot) (style : Style) (level : Nat) :
    Reads reader (style.chars level snapshot.toJson) snapshot := by
  have htexts : ∀ (level : Nat) (texts : Dict String), Reads (Json.readDict Json.readText)
      (style.chars level (texts.toJson .text)) texts := by
    intro level texts
    exact Json.reads_dict .text style level texts fun entry _ =>
      (style.reads_text (level + 1) entry.2).ended
  have hhashes := Json.reads_dict (·.toJson .text) style (level + 1) snapshot.hashes
    fun entry _ => (htexts (level + 1 + 1) entry.2).ended
  have hrecord := Json.reads_record "struct StoreSnapshot"
    ⟨("values", Json.readDict Json.readText),
      ("hashes", Json.readDict (Json.readDict Json.readText))⟩ (by decide)
    (htexts (level + 1) snapshot.values).ended hhashes.ended
  exact hrecord.map reader (fun found => ⟨found.1, found.2⟩) fun _ => rfl

theorem read_pretty (snapshot : Snapshot) :
    Json.read reader snapshot.toJson.pretty = .ok snapshot :=
  Json.read_of_readsEnded (snapshot.reads_reader .pretty 0).ended

end Snapshot

theorem StateFile.load_keep (file : StateFile) (snapshot : Snapshot)
    (h : (Keeper.keep file snapshot).1 = .ok ()) :
    (Keeper.keep file snapshot).2.load = .ok snapshot := by
  cases hsave : file.disk.save file.path snapshot.toJson.pretty with
  | mk outcome disk =>
      cases outcome with
      | error fault => simp [Keeper.keep, hsave] at h
      | ok =>
          obtain ⟨hhas, hread⟩ := Disk.readText_save hsave
          simp [Keeper.keep, hsave, load, hhas, hread, snapshot.read_pretty]

namespace Store

/-- The file of a store that can be read holds its snapshot. -/
structure Saved (store : Store StateFile) : Prop where
  intact : store.broken = []
  load_eq : store.keeper.load = .ok store.snapshot

namespace Saved

variable {store : Store StateFile} {change : Write}

theorem write (h : store.Saved) (hkept : (store.write change).1 = .ok ()) :
    (store.write change).2.Saved := by
  refine ⟨by rw [broken_write, h.intact], ?_⟩
  obtain ⟨houtcome, hkeeper⟩ := write_of_intact h.intact change
  rw [snapshot_write_ok hkept, hkeeper]
  rw [houtcome] at hkept
  exact StateFile.load_keep store.keeper _ hkept

/-- Opening the file again gives the same store. -/
theorem openFile_eq (h : store.Saved) :
    openFile store.keeper.path store.keeper.disk = .ok store := by
  obtain ⟨⟨path, disk⟩, snapshot, broken⟩ := store
  obtain rfl : broken = [] := h.intact
  have hload : StateFile.load ⟨path, disk⟩ = .ok snapshot := h.load_eq
  simp [openFile, hload, Except.map]

end Saved

theorem saved_of_absent {path : String} {disk : Disk} (h : disk.has path = false) :
    Saved { keeper := ⟨path, disk⟩, snapshot := ∅ } :=
  ⟨rfl, by simp [StateFile.load, h]⟩

end Store

end Colloquy.Session
