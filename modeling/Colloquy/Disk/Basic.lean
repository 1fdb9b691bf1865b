import Colloquy.Disk.Fault
import Colloquy.Disk.Node
import Colloquy.Disk.Path

/-!
A disk with a working directory, and how paths lead to its files.  A path is followed step by step:
`.` stays, `..` goes up, and every other step needs an entry of that name in a directory.
-/

namespace Colloquy

structure Disk where
  root : Node
  /-- The names that lead from the root to the working directory. -/
  here : List String

namespace Disk

def nameLimit : Nat := 255

/-- How many bytes are too many for a path. -/
def pathLimit : Nat := 4096

def hereText (disk : Disk) : String := "/" ++ "/".intercalate disk.here

/-- Where the steps lead to from `place`; both places are told by names from the root. -/
def follow (disk : Disk) : (place steps : List String) → Except DiskFault (List String)
  | place, [] => .ok place
  | place, step :: steps =>
    match disk.root.find? place with
    | none => .error .notFound
    | some (.file _) => .error .notDirectory
    | some (.directory entries) =>
      if step = "." then follow disk place steps
      else if step = ".." then follow disk place.dropLast steps
      else if nameLimit < step.utf8ByteSize then .error .nameTooLong
      else if (Dict.lookup step entries).isNone then .error .notFound
      else follow disk (place ++ [step]) steps

def start (disk : Disk) (path : Path) : List String := if path.absolute then [] else disk.here

/-- The parts of a path that can be followed at all. -/
def path (written : String) : Except DiskFault Path :=
  if '\x00' ∈ written.toList then .error .nulInPath
  else if written = "" then .error .notFound
  else if pathLimit ≤ written.utf8ByteSize then .error .nameTooLong
  else .ok (Path.ofText written)

def find (disk : Disk) (written : String) : Except DiskFault Node := do
  let path ← Disk.path written
  let place ← disk.follow (disk.start path) (path.steps ++ if path.slash then ["."] else [])
  match disk.root.find? place with
  | some node => return node
  | none => throw .notFound

def has (disk : Disk) (written : String) : Bool := (disk.find written).toBool

def hasDirectory (disk : Disk) (written : String) : Bool :=
  match disk.find written with
  | .ok node => node.isDirectory
  | .error _ => false

def read (disk : Disk) (written : String) : Except DiskFault ByteArray := do
  match ← disk.find written with
  | .file content => return content
  | .directory _ => throw .isDirectory

def readText (disk : Disk) (written : String) : Except DiskFault String := do
  match String.fromUTF8? (← disk.read written) with
  | some content => return content
  | none => throw .notUtf8

/-- The directory in which the last step of a path has its entry. -/
def holder (disk : Disk) (path : Path) : Except DiskFault (List String) := do
  let place ← disk.follow (disk.start path) (path.steps.dropLast)
  match disk.root.find? place with
  | some (.directory _) => return place
  | some (.file _) => throw .notDirectory
  | none => throw .notFound

/-- Writes a file, whose directory must exist. -/
def write (disk : Disk) (written : String) (content : ByteArray) : Except DiskFault Disk := do
  let path ← Disk.path written
  let place ← disk.holder path
  match path.steps.getLast? with
  | none => throw .isDirectory
  | some name =>
    if path.slash ∨ name = "." ∨ name = ".." then throw .isDirectory
    if nameLimit < name.utf8ByteSize then throw .nameTooLong
    match disk.root.find? (place ++ [name]) with
    | some (.directory _) => throw .isDirectory
    | _ => return { disk with root := Node.put (.file content) (place ++ [name]) disk.root }

def createDirectory (disk : Disk) (written : String) : Except DiskFault Disk := do
  let path ← Disk.path written
  let place ← disk.holder path
  match path.steps.getLast? with
  | none => throw .occupied
  | some name =>
    if name = "." ∨ name = ".." then throw .occupied
    if nameLimit < name.utf8ByteSize then throw .nameTooLong
    match disk.root.find? (place ++ [name]) with
    | some _ => throw .occupied
    | none => return { disk with root := Node.put (.directory []) (place ++ [name]) disk.root }

/-- Creates a directory and those above it, as far as they are missing; the names of the path come
last one first.  What has been created stays even if the rest fails. -/
private def createUpwards (disk : Disk) (absolute : Bool) :
    List String → Except DiskFault Unit × Disk
  | [] => (.ok (), disk)
  | name :: above =>
    let written := (⟨absolute, (name :: above).reverse, false⟩ : Path).text
    let settle (disk : Disk) (fault : DiskFault) : Except DiskFault Unit × Disk :=
      (if disk.hasDirectory written then .ok () else .error fault, disk)
    match disk.createDirectory written with
    | .ok disk => (.ok (), disk)
    | .error .notFound =>
      match createUpwards disk absolute above with
      | (.error fault, disk) => (.error fault, disk)
      | (.ok (), disk) =>
        match disk.createDirectory written with
        | .ok disk => (.ok (), disk)
        | .error fault => settle disk fault
    | .error fault => settle disk fault

/-- Creates the directory that is to hold the file at a path, with those above it. -/
def createHolder (disk : Disk) (path : Path) : Except DiskFault Unit × Disk :=
  disk.createUpwards path.absolute path.leading.dropLast.reverse

/-- Writes a text to a file and creates the directories above it as needed. -/
def save (disk : Disk) (written content : String) : Except DiskFault Unit × Disk :=
  match disk.createHolder (Path.ofText written) with
  | (.error fault, disk) => (.error fault, disk)
  | (.ok (), disk) =>
    match disk.write written content.toUTF8 with
    | .ok disk => (.ok (), disk)
    | .error fault => (.error fault, disk)

end Disk

end Colloquy
