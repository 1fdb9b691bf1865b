import Colloquy.Dict
import Colloquy.Markup.Reference

/-!
Start tags.  The checks that need no other tag are made while reading, in the order of the text;
prefixes are resolved once the whole tag is known.
-/

namespace Colloquy

open Markup

namespace Markup

def reservedUri : String := "http://www.w3.org/XML/1998/namespace"
def declarationUri : String := "http://www.w3.org/2000/xmlns/"

structure Attribute where
  name : QName
  value : String
  place : Location

/-- A start tag: `declared` holds the prefixes that it binds, with their URIs. -/
structure Tag where
  name : QName
  place : Location
  declared : List (String × String)
  attributes : List Attribute

/-- How a tag ends: with content to follow, by itself, or not before the text does. -/
inductive TagEnd where
  | opens
  | closes
  | cut
deriving DecidableEq

namespace Tag

/-- Takes in one attribute: a declaration of a prefix, one of the default namespace, or an
attribute proper. -/
def add (tag : Tag) (a : Attribute) : Except Fault Tag :=
  if a.name.qualifier = "xmlns" then
    if a.value = declarationUri then .error (.declarationUriTaken a.place)
    else if a.name.name = "xml" then
      if a.value = reservedUri then .ok tag else .error (.reservedNameRebound a.place)
    else if a.value = reservedUri then .error (.reservedUriTaken a.place)
    else if tag.declared.any (·.1 = a.name.name) then
      .error (.prefixRedeclared a.name.name a.place)
    else .ok { tag with declared := tag.declared ++ [(a.name.name, a.value)] }
  else if a.name.name = "xmlns" then
    if a.value = reservedUri then .error (.reservedUriTaken a.place)
    else if a.value = declarationUri then .error (.declarationUriTaken a.place)
    else .ok tag
  else .ok { tag with attributes := tag.attributes ++ [a] }

/-- The URI of an attribute's prefix; an attribute without a prefix has none. -/
private def attributeUri (scope : List (String × String)) (a : Attribute) :
    Except Fault (Option String) :=
  if a.name.qualifier = "xml" then .ok (some reservedUri)
  else if a.name.qualifier = "" then .ok none
  else match scope.lookup a.name.qualifier with
    | some uri => .ok (some uri)
    | none => .error (.unknownPrefix a.name.qualifier a.place)

private def checkAttributes (scope : List (String × String))
    (seen : List (Option String × String)) : List Attribute → Except Fault Unit
  | [] => .ok ()
  | a :: rest => do
    let uri ← attributeUri scope a
    if (uri, a.name.name) ∈ seen then throw (.repeatedAttribute a.name.name a.place)
    checkAttributes scope ((uri, a.name.name) :: seen) rest

/-- Resolves all prefixes of the tag, and gives the bindings inside its element. -/
def resolve (tag : Tag) (outer : List (String × String)) :
    Except Fault (List (String × String)) := do
  let scope := tag.declared ++ outer
  checkAttributes scope [] tag.attributes
  let q := tag.name.qualifier
  if q ≠ "" ∧ scope.lookup q = none then
    throw (.unknownPrefix q { tag.place with column := tag.place.column + 1 })
  return scope

def attributeDict (tag : Tag) : Dict String :=
  Dict.ofList (tag.attributes.map fun a => (a.name.name, a.value))

end Tag

end Markup

namespace Cursor

/-- An attribute with its quoted value, which runs to the quote or a `<`. -/
def readRawAttribute (cursor : Cursor) :
    Except Fault (QName × Cursor × List Char × Beyond cursor) := do
  let (name, afterName) ← cursor.readQName
  let afterSign ← afterName.1.skipEquals
  let (quote, value) ← afterSign.1.readQuote
  let (run, afterRun) ← value.1.readUntil fun rest =>
    rest.head? = some quote ∨ rest.head? = some '<'
  let next ← afterRun.1.expect quote
  return (name, value.1, run, ⟨next.1, by
    have := afterName.2; have := afterSign.2; have := value.2; have := afterRun.2
    have := next.2; omega⟩)

def readAttribute (cursor : Cursor) : Except Fault (Attribute × Beyond cursor) := do
  let (name, value, run, next) ← cursor.readRawAttribute
  let pieces ← readPieces ⟨run, value.place⟩
  return (⟨name, attributeValue pieces, cursor.place⟩, next)

def readAttributes (cursor : Cursor) (tag : Tag) :
    Except Fault (Tag × TagEnd × Onward cursor) :=
  if cursor.atEnd then .ok (tag, .cut, cursor.stay)
  else
    let spaced := (cursor.rest.head?.map isSpace).getD false
    let start := cursor.skipSpaces
    match hrest : start.1.rest with
    | [] => .error .endOfText
    | '/' :: _ => do
      let slash := start.1.advance (by simp [hrest])
      let next ← slash.1.expect '>'
      return (tag, .closes, ⟨next.1, by
        have := start.2; have := slash.2; have := next.2; omega⟩)
    | '>' :: _ =>
      let next := start.1.advance (by simp [hrest])
      .ok (tag, .opens, ⟨next.1, by have := start.2; have := next.2; omega⟩)
    | c :: _ =>
      if !spaced then .error (.expectedKind "a whitespace" (leadByte c) start.1.place)
      else do
        let (read, next) ← start.1.readAttribute
        let tag ← tag.add read
        let (tag, tagEnd, last) ← next.1.readAttributes tag
        return (tag, tagEnd, ⟨last.1, by
          have := start.2; have := next.2; have := last.2; omega⟩)
termination_by cursor.size
decreasing_by
  have := start.2; have := next.2; omega

def readTag (cursor : Cursor) (h : cursor.rest ≠ []) :
    Except Fault (Tag × TagEnd × Beyond cursor) := do
  let mark := cursor.advance h
  let (name, afterName) ← mark.1.readQName
  if name.qualifier = "xmlns" then throw (.declarationPrefixUsed mark.1.place)
  let (tag, tagEnd, next) ← afterName.1.readAttributes ⟨name, cursor.place, [], []⟩
  return (tag, tagEnd, ⟨next.1, by
    have := mark.2; have := afterName.2; have := next.2; omega⟩)

end Cursor

end Colloquy
