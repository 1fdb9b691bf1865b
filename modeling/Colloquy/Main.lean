import Colloquy.Command.Run

/-!
The program: loads what a command needs from the real disk, runs it, and writes back what it left.
It has no way to the web, so composers cannot be reached.
-/

namespace Colloquy.Program

open Session (Keeper StateFile Store)

def placeText (place : List String) : String := "/" ++ "/".intercalate place

/-- Adds what stands at a place; of directories below it, only the scripts if `deep` is set. -/
partial def loadPlace (deep : Bool) (root : Node) (place : List String) : IO Node := do
  let path ← IO.FS.realPath (placeText place)
  if ← path.isDir then
    let root := if (root.find? place).isSome then root else Node.put (.directory []) place root
    if !deep then return root
    (← path.readDir).foldlM (fun root entry => do
      let names := place ++ [entry.fileName]
      match (← entry.path.symlinkMetadata).type with
      | .dir => loadPlace deep root names
      | .file => if Script.isPath entry.fileName then loadPlace deep root names else return root
      | _ => return root) root
  else if ← path.pathExists then
    return Node.put (.file (← IO.FS.readBinFile path)) place root
  else return root

/-- Adds what stands on the way of a path and at its end. -/
def loadPath (here : List String) (deep : Bool) (root : Node) (written : String) : IO Node := do
  let path := Path.ofText written
  let (place, root) ← path.steps.foldlM (fun (place, root) step => do
    let place := if step = "." then place
      else if step = ".." then place.dropLast else place ++ [step]
    return (place, ← loadPlace false root place)) (if path.absolute then [] else here, root)
  if deep then loadPlace true root place else return root

def loadDisk (command : Command) : IO Disk := do
  let here := (Path.ofText (← IO.currentDir).toString).steps
  let root := Node.put (.directory []) here default
  let root ← match command with
    | .check scriptsDir => loadPath here true root scriptsDir
    | .compile bot => loadPath here false root bot
    | .send bot stateFile _ _ _ => do
      loadPath here false (← loadPath here false root bot) stateFile
    | .chat bot stateFile _ _ => do
      stateFile.toList.foldlM (loadPath here false) (← loadPath here false root bot)
  return ⟨root, here⟩

def writeBack (before after : Disk) : IO Unit := do
  let old := before.root.files
  for (place, content) in after.root.files do
    if (old.lookup place).all (·.data ≠ content.data) then
      IO.FS.createDirAll (placeText place.dropLast)
      IO.FS.writeBinFile (placeText place) content

def finish (before : Disk) (outcome : Command.Outcome) : IO UInt32 := do
  writeBack before outcome.disk
  IO.print outcome.output
  return outcome.code.toUInt32

/-- A chat with prompts; what it changes is written back line by line. -/
partial def converse {κ : Type} [Keeper κ] (disk : Store κ → Disk) (chat : Chat κ) :
    IO UInt32 := do
  let stdin ← IO.getStdin
  let stdout ← IO.getStdout
  stdout.putStr Chat.prompt
  stdout.flush
  let some raw ← try some <$> stdin.getLine catch _ => pure none
    | let before := disk chat.world.store
      finish before (Command.failed before "" .input)
  if raw.isEmpty then return 0
  let (said, turn, next) := chat.hear raw
  writeBack (disk chat.world.store) (disk next.world.store)
  stdout.putStr said
  match turn with
  | .on => converse disk next
  | .over => return 0

def startChat {κ : Type} [Keeper κ] (setting : Command.Setting) (path session : String)
    (seed : Option UInt32) (store : Store κ) (disk : Store κ → Disk) : IO UInt32 := do
  match Script.load setting.disk path with
  | .error fault => finish setting.disk (Command.failed setting.disk "" (.script fault))
  | .ok script =>
    let chat := Command.newChat setting script session seed store
    IO.print chat.opening
    converse disk chat

end Colloquy.Program

open Colloquy

def main (arguments : List String) : IO UInt32 := do
  match Command.parse arguments with
  | .error .help => return 0
  | .error .misuse => return 2
  | .ok command =>
    let disk ← Program.loadDisk command
    let clock := (← IO.monoNanosNow).toUInt32
    let setting : Command.Setting := { disk, web := fun _ => none, clock, input := [] }
    match command with
    | .chat path none session seed =>
      Program.startChat setting path session seed Session.Store.inMemory fun _ => disk
    | .chat path (some file) session seed =>
      match Session.Store.openFile file disk with
      | .error fault => Program.finish disk (Command.failed disk "" (.store fault))
      | .ok store => Program.startChat setting path session seed store (·.keeper.disk)
    | command => Program.finish disk (Command.run setting command)
