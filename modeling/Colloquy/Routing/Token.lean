import Colloquy.Dict
import Colloquy.Report
import Colloquy.Url.Basic

/-!
Routing tokens: the payloads that buttons carry.  A token is written as a URL whose scheme tells
what to present, whose host names it, and whose query holds parameters.
-/

namespace Colloquy.Routing

inductive Scheme where
  | nav
  | form
  | answer
  | other (name : String)
deriving DecidableEq, Repr

namespace Scheme

def ofName (name : String) : Scheme :=
  match name with
  | "nav" => nav
  | "form" => form
  | "answer" => answer
  | _ => other name

def name : Scheme → String
  | nav => "nav"
  | form => "form"
  | answer => "answer"
  | other name => name

end Scheme

structure Token where
  scheme : Scheme
  host : String
  query : Dict String
deriving DecidableEq

structure Unroutable where
  raw : String
  fault : Url.Fault
deriving DecidableEq, Repr

def Unroutable.report (error : Unroutable) : Report :=
  ⟨"ROUTE_PARSE_ERROR", "Invalid routing token \"" ++ error.raw ++ "\": " ++ error.fault.message,
    none⟩

namespace Token

def flowParam : String := "src_nav_id"
def linkParam : String := "src_link_id"
def resetParam : String := "reset"
def inputParam : String := "input_path"
def optionParam : String := "selected_option_index"

def new (scheme : Scheme) (host : String) : Token := ⟨scheme, host, ∅⟩

def withParam (token : Token) (key value : String) : Token :=
  { token with query := token.query.insert key value }

def param? (token : Token) (key : String) : Option String := token.query.get? key

@[simp] theorem param?_withParam (token : Token) (key value other : String) :
    (token.withParam key value).param? other =
      if key = other then some value else token.param? other := by
  simp [param?, withParam]

/-- The token of an option button: it names the input and the option's position. -/
def ofOption (form inputPath : String) (position : Nat) : Token :=
  ((new .answer form).withParam inputParam inputPath).withParam optionParam (toString position)

def requestsReset (token : Token) : Bool := token.param? resetParam == some "yes"

/-- Of several values for a key the first one counts. -/
def ofUrl (url : Url) : Token :=
  ⟨.ofName url.scheme, url.host.text, Dict.ofListFirst url.queryPairs⟩

def parse (raw : String) : Except Unroutable Token :=
  match Url.parse raw with
  | .ok url => .ok (ofUrl url)
  | .error fault => .error ⟨raw, fault⟩

/-- The token as text: parameters in the order of their keys, no question mark without any. -/
def payload (token : Token) : String :=
  token.scheme.name ++ "://" ++ token.host ++
    if token.query.isEmpty then "" else "?" ++ Url.Form.encode token.query.entries

end Token

end Colloquy.Routing
