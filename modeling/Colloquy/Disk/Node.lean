import Colloquy.Dict

/-!
Trees of files and directories.  The entries of a directory stand in the order of their names.
-/

namespace Colloquy

inductive Node where
  | file (content : ByteArray)
  | directory (entries : List (String × Node))

namespace Node

instance : Inhabited Node := ⟨.directory []⟩

def isDirectory : Node → Bool
  | .file _ => false
  | .directory _ => true

def find? : List String → Node → Option Node
  | [], node => some node
  | _ :: _, .file _ => none
  | name :: names, .directory entries => (Dict.lookup name entries).bind (find? names)

/-- The tree with `value` where the names lead to.  Directories on the way are made if they are
missing; a file on the way stays. -/
def put (value : Node) : List String → Node → Node
  | [], _ => value
  | _ :: _, .file content => .file content
  | name :: names, .directory entries =>
    .directory (Dict.insertEntry name
      (put value names ((Dict.lookup name entries).getD (.directory []))) entries)

mutual

/-- The files at a node and below it, by the names that lead to them, in the order of these. -/
def files : Node → List (List String × ByteArray)
  | .file content => [([], content)]
  | .directory entries => entryFiles entries

def entryFiles : List (String × Node) → List (List String × ByteArray)
  | [] => []
  | (name, node) :: entries =>
    (files node).map (fun (names, content) => (name :: names, content)) ++ entryFiles entries

end

theorem find?_put_directory {value : Node} {names : List String} {node : Node}
    (h : ∀ before ≤ names.length, ∀ content, find? (names.take before) node = some (.file content) →
      before = names.length) :
    find? names (put value names node) = some value := by
  induction names generalizing node with
  | nil => simp [find?, put]
  | cons name names ih =>
    cases node with
    | file content => simpa [find?] using h 0 (Nat.zero_le _) content
    | directory entries =>
      simp only [put, find?, Dict.lookup_insertEntry, if_true, Option.bind_some]
      refine ih fun before hbefore content hfind => ?_
      cases hlookup : Dict.lookup name entries with
      | some child =>
        simpa using h (before + 1) (by simpa using hbefore) content
          (by simpa [find?, hlookup] using hfind)
      | none =>
        rw [hlookup] at hfind
        cases hnames : names.take before with
        | nil => simp [hnames, find?] at hfind
        | cons first others => simp [hnames, find?, Dict.lookup] at hfind

end Node

end Colloquy
