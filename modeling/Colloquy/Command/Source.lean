import Colloquy.Disk.Basic
import Colloquy.Script.Compile

/-!
Scripts on disk: reading one, and finding all below a directory.
-/

namespace Colloquy

inductive LoadFault where
  | unreadable (path : String) (fault : DiskFault)
  | invalid (fault : CompileFault)
deriving DecidableEq, Repr

def LoadFault.report : LoadFault → Report
  | .unreadable path fault =>
    ⟨"SCRIPT_READ_ERROR", s!"Cannot read script {path}: {fault.message}", none⟩
  | .invalid fault => fault.report

/-- The script in a file.  Its path is its identifier if it declares none. -/
def Script.load (disk : Disk) (path : String) : Except LoadFault Script :=
  match disk.readText path with
  | .error fault => .error (.unreadable path fault)
  | .ok source =>
    match Script.compile source path with
    | .ok script => .ok script
    | .error fault => .error (.invalid fault)

inductive SourceFault where
  | notFound (path : String)
  | notDirectory (path : String)
  | empty (path : String)
deriving DecidableEq, Repr

def SourceFault.report : SourceFault → Report
  | .notFound path => ⟨"CLI_SOURCE_NOT_FOUND", s!"scripts-dir does not exist: {path}", none⟩
  | .notDirectory path =>
    ⟨"CLI_SOURCE_NOT_DIR", s!"scripts-dir is not a directory: {path}", none⟩
  | .empty path => ⟨"CLI_SOURCE_EMPTY", s!"No .bot.xml/.html files under {path}", none⟩

namespace Script

def suffixes : List String := [".bot.xml", ".html"]

/-- Whether a path is that of a script, by its ending. -/
def isPath (path : String) : Bool :=
  suffixes.any fun suffix => suffix.toList.isSuffixOf path.toList

/-- The path of a directory of scripts from the root. -/
def directory (disk : Disk) (scriptsDir : String) : String :=
  if (Path.ofText scriptsDir).absolute then scriptsDir else Path.entry disk.hereText scriptsDir

/-- Whether a directory can be opened: what is in one whose path is too long is passed over. -/
def opens (path : String) : Bool := path.utf8ByteSize < Disk.pathLimit

/-- The paths of the scripts in a directory and below, in the order of their names step by step. -/
def findAll (disk : Disk) (scriptsDir : String) : Except SourceFault (List String) :=
  let top := directory disk scriptsDir
  match disk.find top with
  | .error _ => .error (.notFound top)
  | .ok node =>
    if !node.isDirectory then .error (.notDirectory top)
    else
      let files := node.files.filter fun (names, _) => opens (Path.below top names.dropLast)
      let paths := (files.map fun (names, _) => Path.below top names).filter isPath
      if paths = [] then .error (.empty top) else .ok paths

end Script

end Colloquy
