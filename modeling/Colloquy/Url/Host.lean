import Colloquy.Url.International
import Colloquy.Url.Percent

/-!
Hosts.  In a special scheme a host is a domain or an address; in any other it is an opaque name,
kept as written, or an address in brackets.
-/

namespace Colloquy.Url

inductive Fault where
  | relativeWithoutBase
  | emptyHost
  | invalidPort
  | invalidIpv4
  | invalidIpv6
  | invalidDomainCharacter
  | invalidInternationalName
deriving DecidableEq, Repr

def Fault.message : Fault → String
  | .relativeWithoutBase => "relative URL without a base"
  | .emptyHost => "empty host"
  | .invalidPort => "invalid port number"
  | .invalidIpv4 => "invalid IPv4 address"
  | .invalidIpv6 => "invalid IPv6 address"
  | .invalidDomainCharacter => "invalid domain character"
  | .invalidInternationalName => "invalid international domain name"

inductive Host where
  | empty
  | name (text : String)
  | ipv4 (address : Nat)
  | ipv6 (pieces : List Nat)
deriving DecidableEq, Repr

namespace Host

private def lowerHex (n : Nat) : String := String.ofList (Nat.toDigits 16 n)

/-- Start and length of the first longest run of zero pieces. -/
private def longestZeros (pieces : List Nat) : Nat × Nat :=
  let runs := (List.range pieces.length).map fun i =>
    (i, ((pieces.drop i).takeWhile (· == 0)).length)
  runs.foldl (fun best run => if best.2 < run.2 then run else best) (0, 0)

private def joinPieces (pieces : List Nat) : String := ":".intercalate (pieces.map lowerHex)

/-- A run of two or more zero pieces is written `::`. -/
def ipv6Text (pieces : List Nat) : String :=
  let (start, length) := longestZeros pieces
  if length < 2 then joinPieces pieces
  else joinPieces (pieces.take start) ++ "::" ++ joinPieces (pieces.drop (start + length))

def text : Host → String
  | empty => ""
  | name text => text
  | ipv4 address =>
      let bytes :=
        [address / 0x1000000, address / 0x10000 % 256, address / 0x100 % 256, address % 256]
      ".".intercalate (bytes.map toString)
  | ipv6 pieces => "[" ++ ipv6Text pieces ++ "]"

private def isHexDigit (c : Char) : Bool := (hexValue? c).isSome

private def hexNumber (cs : List Char) : Nat :=
  cs.foldl (fun n c => n * 16 + (hexValue? c).getD 0) 0

private def decimalNumber (cs : List Char) : Nat :=
  cs.foldl (fun n c => n * 10 + (c.toNat - 48)) 0

private def dottedByte? (cs : List Char) : Option Nat :=
  if cs = [] ∨ ¬ cs.all Char.isDigit ∨ (cs.length > 1 ∧ cs.head? = some '0') then none
  else if cs.length ≤ 3 ∧ decimalNumber cs ≤ 255 then some (decimalNumber cs) else none

/-- The dotted form at the end of a bracketed address, as two pieces. -/
private def dottedTail? (cs : List Char) : Option (Nat × Nat) :=
  match (Text.pieces '.' cs).map dottedByte? with
  | [some a, some b, some c, some d] => some (a * 256 + b, c * 256 + d)
  | _ => none

/-- Pieces read so far, latest first, and how many stand up to the double colon, whose own piece
is zero. -/
private structure Ipv6Reading where
  pieces : List Nat
  gap : Option Nat

private def readIpv6 (reading : Ipv6Reading) (cs : List Char) : Option Ipv6Reading :=
  match cs with
  | [] => some reading
  | ':' :: rest =>
    if reading.pieces.length = 8 ∨ reading.gap.isSome then none
    else readIpv6 ⟨0 :: reading.pieces, some (reading.pieces.length + 1)⟩ rest
  | c :: tail =>
    if reading.pieces.length = 8 then none
    else
      let digits := ((c :: tail).take 4).takeWhile isHexDigit
      match hrest : (c :: tail).drop digits.length with
      | [] => some ⟨hexNumber digits :: reading.pieces, reading.gap⟩
      | '.' :: _ =>
        if digits = [] ∨ 6 < reading.pieces.length then none
        else (dottedTail? (c :: tail)).map fun (high, low) =>
          ⟨low :: high :: reading.pieces, reading.gap⟩
      | ':' :: rest =>
        have hlt : rest.length < (c :: tail).length := by
          have := congrArg List.length hrest
          simp only [List.length_drop, List.length_cons] at this ⊢
          omega
        if rest = [] then none
        else readIpv6 ⟨hexNumber digits :: reading.pieces, reading.gap⟩ rest
      | _ => none
termination_by cs.length
decreasing_by
  · exact Nat.lt_succ_self _
  · exact hlt

private def Ipv6Reading.complete? (reading : Ipv6Reading) : Option (List Nat) :=
  let pieces := reading.pieces.reverse
  match reading.gap with
  | none => if pieces.length = 8 then some pieces else none
  | some gap =>
    some (pieces.take gap ++ List.replicate (8 - pieces.length) 0 ++ pieces.drop gap)

/-- The eight pieces of an address written between brackets. -/
def ipv6? (cs : List Char) : Option (List Nat) :=
  let reading := match cs with
    | ':' :: ':' :: rest => readIpv6 ⟨[0], some 1⟩ rest
    | ':' :: _ | [] | [_] => none
    | _ => readIpv6 ⟨[], none⟩ cs
  reading.bind Ipv6Reading.complete?

/-- A part of a dotted address: decimal, octal after `0`, hexadecimal after `0x`; `none` if it is
no number. -/
private def addressPart? (cs : List Char) : Option Nat :=
  match cs with
  | [] => none
  | '0' :: 'x' :: digits | '0' :: 'X' :: digits =>
    if digits.all isHexDigit then some (hexNumber digits) else none
  | '0' :: c :: digits =>
    if (c :: digits).all (fun d => '0' ≤ d && d ≤ '7') then
      some ((c :: digits).foldl (fun n d => n * 8 + (d.toNat - 48)) 0)
    else none
  | _ => if cs.all Char.isDigit then some (decimalNumber cs) else none

private def dropLastEmpty (parts : List (List Char)) : List (List Char) :=
  if parts.getLast? = some [] then parts.dropLast else parts

/-- Does the last label, a final dot apart, look like a number? -/
private def endsInNumber (cs : List Char) : Bool :=
  match (dropLastEmpty (Text.pieces '.' cs)).getLast? with
  | some last => (last ≠ [] && last.all Char.isDigit) || (addressPart? last).isSome
  | none => false

/-- Up to four parts; the last one fills the bytes that the others leave. -/
private def ipv4? (cs : List Char) : Option Nat := do
  let parts := dropLastEmpty (Text.pieces '.' cs)
  if 4 < parts.length then none
  else
    let numbers ← parts.mapM addressPart?
    match numbers.reverse with
    | [] => none
    | last :: front =>
      let front := front.reverse
      if Nat.pow 256 (4 - front.length) ≤ last ∨ front.any (255 < ·) then none
      else
        let weights := [0x1000000, 0x10000, 0x100]
        some (last + (front.zip weights).foldr (fun (n, w) total => n * w + total) 0)

private def isForbiddenInDomain (c : Char) : Bool :=
  c.toNat ≤ 0x20 || 0x7F ≤ c.toNat
    || c ∈ ['%', '#', '/', ':', '<', '>', '?', '@', '[', '\\', ']', '^', '|']

def bracketed? (cs : List Char) : Option (Except Fault Host) :=
  match cs with
  | '[' :: rest =>
    if rest.getLast? = some ']' then
      some <| match ipv6? rest.dropLast with
        | some pieces => .ok (.ipv6 pieces)
        | none => .error .invalidIpv6
    else some (.error .invalidIpv6)
  | _ => none

/-- A host of a special scheme: percent-decoded, lower-cased, and read as an address if its last
label is a number.  Names beyond ASCII are refused unless they are spelled in ASCII. -/
def parseDomain (cs : List Char) : Except Fault Host :=
  match bracketed? cs with
  | some result => result
  | none =>
    let domain := (Text.Utf8.decodeLossy (percentDecode cs)).toList.map Char.toLower
    if domain.any isForbiddenInDomain || !International.isWellSpelled domain then
      .error .invalidInternationalName
    else if domain = [] then .error .emptyHost
    else if endsInNumber domain then
      match ipv4? domain with
      | some address => .ok (.ipv4 address)
      | none => .error .invalidIpv4
    else .ok (.name (String.ofList domain))

def isForbiddenInName (c : Char) : Bool :=
  c ∈ ['\x00', '\t', '\n', '\r', ' ', '#', '/', ':', '<', '>', '?', '@', '[', '\\', ']', '^', '|']

/-- A host of a scheme that is not special: its case and its escapes are kept. -/
def parseOpaque (cs : List Char) : Except Fault Host :=
  match bracketed? cs with
  | some result => result
  | none =>
    if cs.any isForbiddenInName then .error .invalidDomainCharacter
    else if cs = [] then .ok .empty
    else .ok (.name (String.ofList (percentEncode keepsOpaque cs)))

end Host

end Colloquy.Url
