import Colloquy.Dialogue.Message
import Colloquy.Dict
import Colloquy.Text.Numeral

/-!
Command lines: a command and its options, each written `--name=value` or `--name value`.
-/

namespace Colloquy

inductive Command where
  | check (scriptsDir : String)
  | compile (bot : String)
  | send (bot stateFile session : String) (seed : Option UInt32) (event : Event)
  | chat (bot : String) (stateFile : Option String) (session : String) (seed : Option UInt32)
deriving DecidableEq, Repr

namespace Command

inductive Usage where
  | help
  | misuse
deriving DecidableEq, Repr

structure Flag where
  name : String
  takesValue : Bool := true
  accepts : String → Bool := fun _ => true

abbrev Options := Dict String

/-- The name of a long option, and the value attached to it. -/
def longOption? (argument : String) : Option (String × Option String) :=
  match argument.toList with
  | '-' :: '-' :: rest =>
    let name := String.ofList (rest.takeWhile (· ≠ '='))
    match rest.dropWhile (· ≠ '=') with
    | _ :: value => some (name, some (String.ofList value))
    | [] => some (name, none)
  | _ => none

/-- What looks like an option is no value of another one. -/
def isValue (argument : String) : Bool :=
  argument = "-" || argument.toList.head? ≠ some '-'

private def add (flag : Flag) (value : String) (options : Options) : Except Usage Options :=
  if (options.get? flag.name).isSome ∨ !flag.accepts value then .error .misuse
  else .ok (options.insert flag.name value)

/-- Reads options from left to right; the first mistake or call for help counts. -/
def readOptions (flags : List Flag) (options : Options) : List String → Except Usage Options
  | [] => .ok options
  | argument :: rest =>
    if argument = "--" then if rest = [] then .ok options else .error .misuse
    else
      match longOption? argument with
      | none => .error (if argument.startsWith "-h" then .help else .misuse)
      | some ("help", none) => .error .help
      | some (name, attached) =>
        match flags.find? (·.name = name) with
        | none => .error .misuse
        | some flag =>
          if !flag.takesValue then
            if attached.isSome then .error .misuse
            else (add flag "" options).bind fun options => readOptions flags options rest
          else
            match attached with
            | some value =>
              (add flag value options).bind fun options => readOptions flags options rest
            | none =>
              match rest with
              | [] => .error .misuse
              | value :: rest =>
                if isValue value then
                  (add flag value options).bind fun options => readOptions flags options rest
                else .error .misuse

/-- A seed is an integer from 0 up to 2^32 - 1. -/
def seed? (value : String) : Option UInt32 :=
  match Text.integer64? value with
  | some (.ofNat n) => if n < 0x100000000 then some n.toUInt32 else none
  | _ => none

private def seedFlag : Flag := { name := "seed", accepts := fun value => (seed? value).isSome }

private def required (options : Options) (name : String) : Except Usage String :=
  match options.get? name with
  | some value => .ok value
  | none => .error .misuse

private def seedOf (options : Options) : Option UInt32 := (options.get? "seed").bind seed?

private def event (options : Options) : Except Usage Event :=
  let told := [options.get? "text" |>.map (Event.message · []),
    options.get? "postback" |>.map Event.postback,
    options.get? "attachment" |>.map fun url => Event.message "" [url],
    options.get? "opt-in" |>.map fun _ => Event.optIn]
  match told.filterMap id with
  | [event] => .ok event
  | _ => .error .misuse

def names : List String := ["check", "compile", "send", "chat", "help"]

def defaultSession : String := "local"

def parse : List String → Except Usage Command
  | [] => .error .misuse
  | name :: arguments =>
    match name with
    | "check" => do
      let options ← readOptions [{ name := "scripts-dir" }] ∅ arguments
      return .check (← required options "scripts-dir")
    | "compile" => do
      let options ← readOptions [{ name := "bot" }] ∅ arguments
      return .compile (← required options "bot")
    | "send" => do
      let options ← readOptions
        [{ name := "bot" }, { name := "state-file" }, { name := "session" }, seedFlag,
          { name := "text" }, { name := "postback" }, { name := "attachment" },
          { name := "opt-in", takesValue := false }] ∅ arguments
      return .send (← required options "bot") (← required options "state-file")
        (← required options "session") (seedOf options) (← event options)
    | "chat" => do
      let options ← readOptions
        [{ name := "bot" }, { name := "state-file" }, { name := "session" }, seedFlag] ∅ arguments
      return .chat (← required options "bot") (options.get? "state-file")
        ((options.get? "session").getD defaultSession) (seedOf options)
    | "help" =>
      match arguments with
      | [] => .error .help
      | [topic] => .error (if topic ∈ names then .help else .misuse)
      | _ => .error .misuse
    | _ => .error (if name = "--help" ∨ name.startsWith "-h" then .help else .misuse)

end Command

end Colloquy
