import Colloquy.Report
import Colloquy.Url.Basic

/-!
Composers: services that are asked over the web for a reply to free text.
-/

namespace Colloquy.Composer

/-- The setting of a script that holds the template of its composer's URL. -/
def configKey : String := "composer"

/-- Replaces the first `%s`. -/
def fill (filling : List Char) : List Char → List Char
  | '%' :: 's' :: rest => filling ++ rest
  | c :: rest => c :: fill filling rest
  | [] => []

def url (template text : String) : String :=
  String.ofList (fill (Url.Form.encodeChars text.toList) template.toList)

inductive Fault where
  | request
  | body
deriving DecidableEq, Repr

def Fault.report : Fault → Report
  | .request => ⟨"COMPOSE_REQUEST", "The compose service could not be asked.", none⟩
  | .body => ⟨"COMPOSE_READ", "The reply of the compose service broke off.", none⟩

/-- The body of a response as it arrives: chunk by chunk, up to its end or until it breaks off. -/
structure Arrival where
  chunks : List (List UInt8)
  breaksOff : Bool
deriving DecidableEq, Repr

def bodyLimit : Nat := 500 * 1024

def appendCapped (limit : Nat) (body chunk : List UInt8) : List UInt8 :=
  body ++ chunk.take (limit - body.length)

/-- Reads on from `body` until the limit is reached or nothing is left. -/
def readCapped (limit : Nat) (breaksOff : Bool) (body : List UInt8) :
    List (List UInt8) → Except Fault (List UInt8)
  | [] => if breaksOff then .error .body else .ok body
  | chunk :: chunks =>
    if limit ≤ (appendCapped limit body chunk).length then .ok (appendCapped limit body chunk)
    else readCapped limit breaksOff (appendCapped limit body chunk) chunks

def Arrival.text (arrival : Arrival) : Except Fault String :=
  (readCapped bodyLimit arrival.breaksOff [] arrival.chunks).map Text.Utf8.decodeLossy

def schemes : List String := ["http", "https"]

def address? (written : String) : Option Url :=
  (Url.parse written).toOption.filter (·.scheme ∈ schemes)

/-- Asks for a reply, where `fetch` gives what the web responds, if anything. -/
def ask (fetch : Url → Option Arrival) (written : String) : Except Fault String :=
  match (address? written).bind fetch with
  | some arrival => arrival.text
  | none => .error .request

end Colloquy.Composer
