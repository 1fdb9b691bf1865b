import Colloquy.Markup.Cursor
import Colloquy.Url.Percent

/-!
Names, character references, and the two ways in which a run of characters becomes a value: text
unifies line ends, attribute values turn white space into spaces.  What a reference stands for is
kept as it is.
-/

namespace Colloquy

open Markup

namespace Markup

/-- A name with the part before its colon, which is empty without one. -/
structure QName where
  qualifier : String
  name : String
deriving DecidableEq, Repr

def QName.text (q : QName) : String :=
  if q.qualifier = "" then q.name else q.qualifier ++ ":" ++ q.name

end Markup

namespace Cursor

/-- A name with at most one colon; each part starts as a name does. -/
def readQName (cursor : Cursor) : Except Fault (QName × Beyond cursor) :=
  let (run, next) := cursor.takeWhile isNameChar
  let qualified := ':' ∈ run
  let qualifier := if qualified then run.takeWhile (· ≠ ':') else []
  let name := if qualified then (run.dropWhile (· ≠ ':')).drop 1 else run
  let startsWell := fun cs : List Char => (cs.head?.map isNameStart).getD true
  if h : next.1.size < cursor.size then
    if ':' ∈ name ∨ name = [] ∨ ¬ startsWell qualifier ∨ ¬ startsWell name then
      .error (.invalidName cursor.place)
    else .ok (⟨String.ofList qualifier, String.ofList name⟩, ⟨next.1, h⟩)
  else .error (.invalidName cursor.place)

/-- A name that may hold any number of colons. -/
def readName (cursor : Cursor) : Except Fault (String × Beyond cursor) :=
  match hrest : cursor.rest with
  | c :: _ =>
    if isNameStart c then
      let first := cursor.advance (by simp [hrest])
      let (run, next) := first.1.takeWhile isNameChar
      .ok (String.ofList (c :: run), ⟨next.1, Nat.lt_of_le_of_lt next.2 first.2⟩)
    else .error (.invalidName cursor.place)
  | [] => .error (.invalidName cursor.place)

end Cursor

namespace Markup

/-- The character that a number stands for: the replacement character if it is no code point. -/
def characterOfCode (n : Nat) : Char :=
  if n.isValidChar then Char.ofNat n else Text.Utf8.replacement

def isHexDigit (c : Char) : Bool := (Url.hexValue? c).isSome

def numberIn (base : Nat) (digits : List Char) : Nat :=
  digits.foldl (fun n c => n * base + (Url.hexValue? c).getD 0) 0

def namedCharacter? (name : String) : Option Char :=
  match name with
  | "quot" => some '"'
  | "amp" => some '&'
  | "apos" => some '\''
  | "lt" => some '<'
  | "gt" => some '>'
  | _ => none

end Markup

/-- A reference, from its ampersand to its semicolon. -/
def Cursor.readReference (cursor : Cursor) : Except Fault (Char × Beyond cursor) :=
  let malformed := Fault.malformedReference cursor.place
  let close := fun (next : Beyond cursor) => (next.1.expect ';').map fun last =>
    (⟨last.1, Nat.lt_trans last.2 next.2⟩ : Beyond cursor)
  match hrest : cursor.rest with
  | '&' :: '#' :: _ =>
    let mark := cursor.advance (by simp [hrest])
    let hash := mark.1.skip 1
    let hexadecimal := hash.1.startsWith "x"
    let start := hash.1.skip (if hexadecimal then 1 else 0)
    let (digits, next) := start.1.takeWhile (if hexadecimal then isHexDigit else Char.isDigit)
    let code := numberIn (if hexadecimal then 16 else 10) digits
    let c := characterOfCode code
    let after : Beyond cursor := ⟨next.1, by
      have := mark.2; have := hash.2; have := start.2; have := next.2; omega⟩
    if digits = [] ∨ 0x100000000 ≤ code ∨ ¬ isAllowed c then .error malformed
    else match close after with
      | .ok last => .ok (c, last)
      | .error _ => .error malformed
  | '&' :: _ =>
    let mark := cursor.advance (by simp [hrest])
    match mark.1.readName with
    | .ok (name, next) =>
      match close ⟨next.1, Nat.lt_trans next.2 mark.2⟩ with
      | .ok last =>
        match namedCharacter? name with
        | some c => .ok (c, last)
        | none => .error (.unknownEntity name cursor.place)
      | .error _ => .error malformed
    | .error _ => .error malformed
  | _ => .error malformed

namespace Markup

/-- A character of a run: written as itself, or by a reference. -/
inductive Piece where
  | literal (c : Char)
  | referred (c : Char)

end Markup

def Cursor.readPieces (cursor : Cursor) : Except Fault (List Piece) :=
  match hrest : cursor.rest with
  | [] => .ok []
  | c :: _ =>
    if c = '&' then do
      let (referred, next) ← cursor.readReference
      let pieces ← next.1.readPieces
      return .referred referred :: pieces
    else do
      let next := cursor.advance (by simp [hrest])
      let pieces ← next.1.readPieces
      return .literal c :: pieces
termination_by cursor.size
decreasing_by
  · exact next.2
  · exact next.2

namespace Markup

/-- Text under way: its characters, latest first, and whether a reference came last. -/
private structure TextReading where
  found : List Char
  afterReference : Bool

/-- A line end that is written as itself is one line feed.  A character right after a reference
is kept as it is. -/
private def addText (reading : TextReading) (piece : Piece) (last : Bool) : TextReading :=
  match piece with
  | .referred c => ⟨c :: reading.found, true⟩
  | .literal c =>
    if reading.afterReference then ⟨c :: reading.found, false⟩
    else
      let found := match reading.found with
        | '\r' :: before =>
          if last && c == '\r' then '\n' :: '\n' :: before
          else if c ≠ '\n' then c :: '\n' :: before
          else '\n' :: before
        | found => if last && c == '\r' then '\n' :: found else c :: found
      ⟨found, false⟩

private def textFrom (reading : TextReading) : List Piece → List Char
  | [] => reading.found.reverse
  | piece :: rest => textFrom (addText reading piece rest.isEmpty) rest

def textValue (pieces : List Piece) : String := String.ofList (textFrom ⟨[], false⟩ pieces)

private def attributeFrom : List Piece → List Char
  | [] => []
  | .referred c :: rest => c :: attributeFrom rest
  | .literal '\r' :: .literal '\n' :: rest => ' ' :: attributeFrom rest
  | .literal c :: rest => (if isSpace c then ' ' else c) :: attributeFrom rest

def attributeValue (pieces : List Piece) : String := String.ofList (attributeFrom pieces)

end Markup

end Colloquy
