import Colloquy.Disk.Path
import Colloquy.Proofs.Dict
import Colloquy.Proofs.Disk.Saved

/-!
Trees of files and directories as they are kept on a disk.  The walk through one meets every file
once, in the order of the names that lead there.
-/

namespace Colloquy

/-- The name of an entry of a directory can be a step of a path, and leads to the entry. -/
structure IsEntryName (name : String) : Prop where
  ne_empty : name ≠ ""
  ne_dot : name ≠ "."
  ne_dot_dot : name ≠ ".."
  slash_not_mem : '/' ∉ name.toList

instance (name : String) : Decidable (IsEntryName name) :=
  decidable_of_iff (name ≠ "" ∧ name ≠ "." ∧ name ≠ ".." ∧ '/' ∉ name.toList)
    ⟨fun ⟨hempty, hdot, hdots, hslash⟩ => ⟨hempty, hdot, hdots, hslash⟩,
      fun ⟨hempty, hdot, hdots, hslash⟩ => ⟨hempty, hdot, hdots, hslash⟩⟩

namespace Node

/-- The entries of each directory can be told apart by their names and stand in the order of
these. -/
inductive WellKept : Node → Prop where
  | file (content : ByteArray) : WellKept (.file content)
  | directory {entries : List (String × Node)}
      (names : ∀ entry ∈ entries, IsEntryName entry.1)
      (sorted : entries.Pairwise (·.1 < ·.1))
      (children : ∀ entry ∈ entries, WellKept entry.2) : WellKept (.directory entries)

theorem entryFiles_eq_flatMap (entries : List (String × Node)) :
    entryFiles entries = entries.flatMap fun entry =>
      entry.2.files.map fun file => (entry.1 :: file.1, file.2) := by
  induction entries with
  | nil => rfl
  | cons entry entries ih => rw [entryFiles, ih, List.flatMap_cons]

theorem files_directory (entries : List (String × Node)) :
    (directory entries).files = entries.flatMap fun entry =>
      entry.2.files.map fun file => (entry.1 :: file.1, file.2) := by
  rw [files, entryFiles_eq_flatMap]

theorem mem_files_directory {entries : List (String × Node)} {names : List String}
    {content : ByteArray} :
    (names, content) ∈ (directory entries).files ↔
      ∃ entry ∈ entries, ∃ rest, names = entry.1 :: rest ∧ (rest, content) ∈ entry.2.files := by
  rw [files_directory, List.mem_flatMap]
  refine exists_congr fun entry => and_congr_right fun _ => ?_
  constructor
  · intro h
    obtain ⟨⟨rest, content⟩, hfile, heq⟩ := List.mem_map.mp h
    obtain ⟨rfl, rfl⟩ := Prod.mk.inj heq
    exact ⟨rest, rfl, hfile⟩
  · rintro ⟨rest, rfl, hfile⟩
    exact List.mem_map_of_mem hfile

namespace WellKept

variable {node : Node} {names : List String} {content : ByteArray}

/-- A tree stays well kept when something is put into it. -/
theorem put {value : Node} (hvalue : value.WellKept) (h : node.WellKept)
    (hnames : ∀ name ∈ names, IsEntryName name) : (Node.put value names node).WellKept := by
  induction names generalizing node with
  | nil => exact hvalue
  | cons name names ih =>
      obtain ⟨hname, hrest⟩ := List.forall_mem_cons.mp hnames
      cases h with
      | file content => exact .file content
      | @directory entries hentries hsorted hchildren =>
          have hbelow : ((Dict.lookup name entries).getD (.directory [])).WellKept := by
            cases hlookup : Dict.lookup name entries with
            | none => exact .directory (by simp) .nil (by simp)
            | some child => exact hchildren _ ((Dict.lookup_eq_some_iff hsorted).mp hlookup)
          refine .directory (fun entry hentry => ?_) (Dict.pairwise_insertEntry name _ hsorted)
            fun entry hentry => ?_
          · rcases Dict.mem_insertEntry hentry with rfl | hentry
            · exact hname
            · exact hentries entry hentry
          · rcases Dict.mem_insertEntry hentry with rfl | hentry
            · exact ih hbelow hrest
            · exact hchildren entry hentry

theorem find? (h : node.WellKept) {found : Node} (hfound : node.find? names = some found) :
    found.WellKept := by
  induction names generalizing node with
  | nil =>
      obtain rfl : node = found := Option.some.inj hfound
      exact h
  | cons name names ih =>
      cases h with
      | file content => cases hfound
      | directory _ hsorted hchildren =>
          obtain ⟨child, hchild, hrest⟩ := Option.bind_eq_some_iff.mp hfound
          exact ih (hchildren _ ((Dict.lookup_eq_some_iff hsorted).mp hchild)) hrest

/-- A file is met exactly if names lead to it. -/
theorem mem_files_iff (h : node.WellKept) :
    (names, content) ∈ node.files ↔ node.find? names = some (.file content) := by
  induction h generalizing names with
  | file other =>
      cases names with
      | nil => simp [files, Node.find?, eq_comm]
      | cons name names => simp [files, Node.find?]
  | @directory entries _ hsorted _ ih =>
      rw [mem_files_directory]
      cases names with
      | nil => simp [Node.find?]
      | cons name names =>
          rw [Node.find?, Option.bind_eq_some_iff]
          constructor
          · rintro ⟨entry, hentry, rest, heq, hfile⟩
            obtain ⟨rfl, rfl⟩ := List.cons.inj heq
            have hlookup := (Dict.lookup_eq_some_iff hsorted).mpr hentry
            exact ⟨entry.2, hlookup, (ih entry hentry).mp hfile⟩
          · rintro ⟨child, hchild, hfile⟩
            have hentry := (Dict.lookup_eq_some_iff hsorted).mp hchild
            exact ⟨(name, child), hentry, names, rfl, (ih _ hentry).mpr hfile⟩

theorem isEntryName (h : node.WellKept) (hfile : (names, content) ∈ node.files) :
    ∀ name ∈ names, IsEntryName name := by
  induction h generalizing names with
  | file other =>
      obtain ⟨rfl, rfl⟩ := Prod.mk.inj (List.mem_singleton.mp hfile)
      exact fun _ hmem => absurd hmem List.not_mem_nil
  | directory hnames _ _ ih =>
      obtain ⟨entry, hentry, rest, rfl, hrest⟩ := mem_files_directory.mp hfile
      intro name hmem
      rcases List.mem_cons.mp hmem with rfl | hmem
      · exact hnames entry hentry
      · exact ih entry hentry hrest name hmem

theorem pairwise_files (h : node.WellKept) :
    node.files.Pairwise fun file later => file.1 < later.1 := by
  induction h with
  | file content => exact List.pairwise_singleton _ _
  | @directory entries _ hsorted _ ih =>
      rw [files_directory, List.pairwise_flatMap]
      constructor
      · intro entry hentry
        rw [List.pairwise_map]
        exact (ih entry hentry).imp fun hlt => List.cons_lt_cons_iff.mpr (.inr ⟨rfl, hlt⟩)
      · refine hsorted.imp fun hlt file hfile later hlater => ?_
        obtain ⟨_, _, rfl⟩ := List.mem_map.mp hfile
        obtain ⟨_, _, rfl⟩ := List.mem_map.mp hlater
        exact List.cons_lt_cons_iff.mpr (.inl hlt)

end WellKept

/-- The tree of files that are laid out one after another. -/
def ofFiles (files : List (List String × String)) : Node :=
  files.foldl (fun node file => put (.file file.2.toUTF8) file.1 node) (.directory [])

theorem wellKept_ofFiles {files : List (List String × String)}
    (hnames : ∀ file ∈ files, ∀ name ∈ file.1, IsEntryName name) : (ofFiles files).WellKept := by
  refine List.foldlRecOn files _ (.directory (by simp) .nil (by simp)) ?_
  intro node hnode file hfile
  exact .put (.file _) hnode (hnames file hfile)

end Node

end Colloquy
