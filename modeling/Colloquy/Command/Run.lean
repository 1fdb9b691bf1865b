import Colloquy.Command.Arguments
import Colloquy.Command.Chat
import Colloquy.Command.Source
import Colloquy.Dialogue.Written

/-!
Running commands: what they print, their exit codes, and what they leave on disk.
-/

namespace Colloquy.Command

open Session (Keeper StateFile Store StoreFault)

structure Setting where
  disk : Disk
  /-- What the web responds, if it can be reached. -/
  web : Url → Option Composer.Arrival
  /-- The seed of pickers that are given none. -/
  clock : UInt32
  input : List UInt8

structure Outcome where
  code : Nat
  output : String
  disk : Disk

inductive Fault where
  | source (fault : SourceFault)
  | script (fault : LoadFault)
  | store (fault : StoreFault)
  /-- A line of the input is no text. -/
  | input

def Fault.report : Fault → Report
  | .source fault => fault.report
  | .script fault => fault.report
  | .store fault => fault.report
  | .input => ⟨"CLI_IO", DiskFault.notUtf8.message, none⟩

def quoted (s : String) : String := (Json.text s).compact

def failureLines (report : Report) : List String :=
  ["RESULT:ERROR", "ERROR_CODE:" ++ report.code, "ERROR_MSG_JSON:" ++ quoted report.message]

/-- The end of a command that failed after it had printed something. -/
def failed (disk : Disk) (printed : String) (fault : Fault) : Outcome :=
  ⟨1, printed ++ Chat.output (failureLines fault.report), disk⟩

def verdict (disk : Disk) (path : String) : Except Report Script :=
  (Script.load disk path).mapError LoadFault.report

/-- The line about a script, in which the fault of one that cannot be compiled is told. -/
def verdictLine (disk : Disk) (path : String) : String :=
  match verdict disk path with
  | .ok _ => "OK:" ++ path
  | .error report => "ERROR:" ++ path ++ "|" ++ report.code ++ "|" ++ quoted report.message

def runCheck (disk : Disk) (scriptsDir : String) : Outcome :=
  match Script.findAll disk scriptsDir with
  | .error fault => failed disk "" (.source fault)
  | .ok paths =>
    let sound := paths.all fun path => (verdict disk path).toBool
    ⟨if sound then 0 else 1,
      Chat.output (paths.map (verdictLine disk) ++ [s!"CHECKED:{paths.length}"]), disk⟩

def runCompile (disk : Disk) (bot : String) : Outcome :=
  match Script.load disk bot with
  | .error fault => failed disk "" (.script fault)
  | .ok script => ⟨0, Chat.output ["RESULT:OK", "SCRIPT_JSON:" ++ script.toJson.compact], disk⟩

def bot (setting : Setting) (script : Script) : Engine :=
  { script, composer := Composer.ask setting.web }

def messageLines (messages : List Message) : List String :=
  messages.map fun message => "MESSAGE_JSON:" ++ message.toJson.compact

def runSend (setting : Setting) (path stateFile session : String) (seed : Option UInt32)
    (event : Event) : Outcome :=
  match Store.openFile stateFile setting.disk with
  | .error fault => failed setting.disk "" (.store fault)
  | .ok store =>
    match Script.load setting.disk path with
    | .error fault => failed setting.disk "" (.script fault)
    | .ok script =>
      let world : World StateFile := ⟨store, ⟨seed.getD setting.clock⟩, []⟩
      let (messages, world) := (⟨bot setting script, session⟩ : Conversation).handle event world
      ⟨0, Chat.output (["RESULT:OK"] ++ messageLines messages ++ ["STATE_FILE:" ++ stateFile]),
        world.store.keeper.disk⟩

def inputLines : List UInt8 → List (List UInt8)
  | [] => []
  | byte :: rest =>
    if byte = 10 then [] :: inputLines rest
    else
      match inputLines rest with
      | line :: lines => (byte :: line) :: lines
      | [] => [[byte]]

def textLine (line : List UInt8) : Option String := String.fromUTF8? ⟨line.toArray⟩

def newChat {κ : Type} (setting : Setting) (script : Script) (session : String)
    (seed : Option UInt32) (store : Store κ) : Chat κ :=
  { conversation := ⟨bot setting script, session⟩,
    world := ⟨store, ⟨seed.getD setting.clock⟩, []⟩ }

/-- A chat from its opening to its end; `disk` tells the disk that its store leaves. -/
def runChatOn {κ : Type} [Keeper κ] (setting : Setting) (path session : String)
    (seed : Option UInt32) (store : Store κ) (disk : Store κ → Disk) : Outcome :=
  match Script.load setting.disk path with
  | .error fault => failed setting.disk "" (.script fault)
  | .ok script =>
    let chat := newChat setting script session seed store
    match chat.run ((inputLines setting.input).map textLine) with
    | (said, .closed, last) => ⟨0, chat.opening ++ said, disk last.world.store⟩
    | (said, .garbled, last) => failed (disk last.world.store) (chat.opening ++ said) .input

def runChat (setting : Setting) (path : String) (stateFile : Option String) (session : String)
    (seed : Option UInt32) : Outcome :=
  match stateFile with
  | none => runChatOn setting path session seed Store.inMemory fun _ => setting.disk
  | some file =>
    match Store.openFile file setting.disk with
    | .error fault => failed setting.disk "" (.store fault)
    | .ok store => runChatOn setting path session seed store (·.keeper.disk)

def run (setting : Setting) : Command → Outcome
  | .check scriptsDir => runCheck setting.disk scriptsDir
  | .compile path => runCompile setting.disk path
  | .send path stateFile session seed event =>
    runSend setting path stateFile session seed event
  | .chat path stateFile session seed => runChat setting path stateFile session seed

/-- Runs a command line.  A call for help is no failure; a mistake has an exit code of its own. -/
def runLine (setting : Setting) (arguments : List String) : Outcome :=
  match parse arguments with
  | .ok command => run setting command
  | .error .help => ⟨0, "", setting.disk⟩
  | .error .misuse => ⟨2, "", setting.disk⟩

end Colloquy.Command
