import Colloquy.Markup.Element
import Colloquy.Markup.Tag

/-!
Whole documents: an optional declaration, one element, and comments and processing instructions
around it.  `Element.parse` reads the element without the blank pieces of text, and
`Element.parseAll` with all its text.
-/

namespace Colloquy

open Markup

namespace Cursor

/-- The declaration at the start of a document: a version, then perhaps an encoding and a
standalone mark, whose values may be anything. -/
def readDeclaration (cursor : Cursor) : Except Fault (Onward cursor) := do
  let start := cursor.skip 5
  let before ← separate start.1
  if !before.1.startsWith "version" then
    throw (.expectedText "version" before.1.place)
  let (_, _, _, version) ← before.1.readRawAttribute
  let afterVersion ← separate version.1
  let encoding ← optionalAttribute afterVersion.1 "encoding"
  let afterEncoding ←
    if afterVersion.1.startsWith "encoding" then separate encoding.1
    else pure (encoding.1.stay)
  let standalone ← optionalAttribute afterEncoding.1 "standalone"
  let last := standalone.1.skipSpaces
  let next ← last.1.expectText "?>"
  return ⟨next.1, by
    have := start.2; have := before.2; have := version.2; have := afterVersion.2
    have := encoding.2; have := afterEncoding.2; have := standalone.2; have := last.2
    have := next.2; omega⟩
where
  /-- Spaces, unless the declaration or the text ends here. -/
  separate (cursor : Cursor) : Except Fault (Onward cursor) :=
    match cursor.rest with
    | [] => .ok cursor.stay
    | c :: _ =>
      if isSpace c then .ok cursor.skipSpaces
      else if cursor.startsWith "?>" then .ok cursor.stay
      else .error (.expectedKind "a whitespace" (leadByte c) cursor.place)
  optionalAttribute (cursor : Cursor) (name : String) : Except Fault (Onward cursor) := do
    if cursor.startsWith name then
      let (_, _, _, next) ← cursor.readRawAttribute
      return ⟨next.1, Nat.le_of_lt next.2⟩
    else return cursor.stay

private def hasDoubleHyphen : List Char → Bool
  | '-' :: '-' :: _ => true
  | ['-'] => true
  | _ :: rest => hasDoubleHyphen rest
  | [] => false

def readComment (cursor : Cursor) (h : cursor.rest ≠ []) : Except Fault (Beyond cursor) := do
  let mark := cursor.advance h
  let start := mark.1.skip 3
  let (text, stop) ← start.1.readUntil ("-->".toList.isPrefixOf ·)
  let next ← stop.1.expectText "-->"
  if hasDoubleHyphen text then throw (.doubleHyphen cursor.place)
  return ⟨next.1, by
    have := mark.2; have := start.2; have := stop.2; have := next.2; omega⟩

def readInstruction (cursor : Cursor) (h : cursor.rest ≠ []) : Except Fault (Beyond cursor) := do
  if cursor.startsWith "<?xml " then throw (.misplacedDeclaration cursor.place)
  let mark := cursor.advance h
  let start := mark.1.skip 1
  let (_, afterName) ← start.1.readName
  let content := afterName.1.skipSpaces
  let (_, stop) ← content.1.readUntil ("?>".toList.isPrefixOf ·)
  let next ← stop.1.expectText "?>"
  return ⟨next.1, by
    have := mark.2; have := start.2; have := afterName.2; have := content.2
    have := stop.2; have := next.2; omega⟩

def skipMisc (cursor : Cursor) : Except Fault (Onward cursor) :=
  let start := cursor.skipSpaces
  if hempty : start.1.rest = [] then .ok start
  else if start.1.startsWith "<!--" then do
    let next ← start.1.readComment hempty
    let last ← next.1.skipMisc
    return ⟨last.1, Nat.le_trans last.2 (Nat.le_trans (Nat.le_of_lt next.2) start.2)⟩
  else if start.1.startsWith "<?" then do
    let next ← start.1.readInstruction hempty
    let last ← next.1.skipMisc
    return ⟨last.1, Nat.le_trans last.2 (Nat.le_trans (Nat.le_of_lt next.2) start.2)⟩
  else .ok start
termination_by cursor.size
decreasing_by
  all_goals exact Nat.lt_of_lt_of_le next.2 start.2

/-- A marked section of text, from its `<![CDATA[`: the pieces of its text. -/
def readSection (cursor : Cursor) (h : cursor.rest ≠ []) :
    Except Fault (List Piece × Beyond cursor) := do
  let mark := cursor.advance h
  let start := mark.1.skip 8
  let (text, stop) ← start.1.readUntil ("]]>".toList.isPrefixOf ·)
  let next ← stop.1.expectText "]]>"
  return (text.map .literal, ⟨next.1, by
    have := mark.2; have := start.2; have := stop.2; have := next.2; omega⟩)

private def hasClosingBrackets : List Char → Bool
  | ']' :: ']' :: '>' :: _ => true
  | _ :: rest => hasClosingBrackets rest
  | [] => false

/-- A run of text up to the next `<`; its first character is no `<`. -/
def readText (cursor : Cursor) (h : cursor.rest ≠ []) :
    Except Fault (List Piece × Beyond cursor) := do
  let first := cursor.advance h
  let (run, stop) ← cursor.readUntil (·.head? = some '<')
  if hasClosingBrackets run then throw (.closingBrackets stop.1.place)
  let pieces ← readPieces ⟨run, cursor.place⟩
  if hstop : stop.1.size < cursor.size then return (pieces, ⟨stop.1, hstop⟩)
  else return (pieces, first)

def readClose (cursor : Cursor) (h : cursor.rest ≠ []) :
    Except Fault (QName × Beyond cursor) := do
  let mark := cursor.advance h
  let start := mark.1.skip 1
  let (name, afterName) ← start.1.readQName
  let last := afterName.1.skipSpaces
  let next ← last.1.expect '>'
  return (name, ⟨next.1, by
    have := mark.2; have := start.2; have := afterName.2; have := last.2
    have := next.2; omega⟩)

end Cursor

namespace Markup

/-- An element whose end is still to come: its children so far, latest first, and the prefixes
bound inside it. -/
structure Open where
  tag : Tag
  scope : List (String × String)
  children : List Node

namespace Open

def close (e : Open) (stop : Location) : Element :=
  ⟨e.tag.name.name, e.tag.attributeDict, e.children.reverse, ⟨e.tag.place, stop⟩⟩

def add (e : Open) (child : Node) : Open := { e with children := child :: e.children }

/-- Adds text; it joins the text right before it, whose place it takes over. -/
def addText (e : Open) (value : String) (span : Span) (joins : Bool) : Open :=
  match joins, e.children with
  | true, .text before place :: rest => { e with children := .text (before ++ value) place :: rest }
  | _, _ => e.add (.text value span)

end Open

end Markup

namespace Cursor

/-- Reads the content of `inner`, which stands in the elements of `outer`, nearest first, and goes
on until the outermost one is closed.  `joins` tells that text came last. -/
def readContent (cursor : Cursor) (inner : Open) (outer : List Open) (joins : Bool) :
    Except Fault (Element × Onward cursor) :=
  if hempty : cursor.rest = [] then .error .unclosedRoot
  else if cursor.startsWith "<!--" then do
    let next ← cursor.readComment hempty
    let (root, last) ← next.1.readContent inner outer false
    return (root, ⟨last.1, by have := next.2; have := last.2; omega⟩)
  else if cursor.startsWith "<![CDATA[" then do
    let (pieces, next) ← cursor.readSection hempty
    let inner := inner.addText (textValue pieces) ⟨cursor.place, next.1.place⟩ joins
    let (root, last) ← next.1.readContent inner outer true
    return (root, ⟨last.1, by have := next.2; have := last.2; omega⟩)
  else if cursor.startsWith "<!" ∨ cursor.rest = ['<'] then .error (.unknownToken cursor.place)
  else if cursor.startsWith "<?" then do
    let next ← cursor.readInstruction hempty
    let (root, last) ← next.1.readContent inner outer false
    return (root, ⟨last.1, by have := next.2; have := last.2; omega⟩)
  else if cursor.startsWith "</" then do
    let (name, next) ← cursor.readClose hempty
    if name ≠ inner.tag.name then
      throw (.wrongClose inner.tag.name.text name.text cursor.place)
    let closed := inner.close next.1.place
    match outer with
    | [] => return (closed, ⟨next.1, by have := next.2; omega⟩)
    | parent :: others =>
      let (root, last) ← next.1.readContent (parent.add (.element closed)) others false
      return (root, ⟨last.1, by have := next.2; have := last.2; omega⟩)
  else if cursor.startsWith "<" then do
    let (tag, tagEnd, next) ← cursor.readTag hempty
    match tagEnd with
    | .cut => throw .unclosedRoot
    | .closes =>
      let scope ← tag.resolve inner.scope
      let closed := (Open.mk tag scope []).close next.1.place
      let (root, last) ← next.1.readContent (inner.add (.element closed)) outer false
      return (root, ⟨last.1, by have := next.2; have := last.2; omega⟩)
    | .opens =>
      let scope ← tag.resolve inner.scope
      let (root, last) ← next.1.readContent ⟨tag, scope, []⟩ (inner :: outer) false
      return (root, ⟨last.1, by have := next.2; have := last.2; omega⟩)
  else do
    let (pieces, next) ← cursor.readText hempty
    let inner := inner.addText (textValue pieces) ⟨cursor.place, next.1.place⟩ joins
    let (root, last) ← next.1.readContent inner outer true
    return (root, ⟨last.1, by have := next.2; have := last.2; omega⟩)
termination_by cursor.size
decreasing_by
  all_goals exact next.2

def readRoot (cursor : Cursor) (h : cursor.rest ≠ []) : Except Fault (Element × Onward cursor) := do
  let (tag, tagEnd, next) ← cursor.readTag h
  match tagEnd with
  | .cut => throw .noRoot
  | .closes =>
    let scope ← tag.resolve []
    return ((Open.mk tag scope []).close next.1.place, ⟨next.1, by have := next.2; omega⟩)
  | .opens =>
    let scope ← tag.resolve []
    let (root, last) ← next.1.readContent ⟨tag, scope, []⟩ [] false
    return (root, ⟨last.1, by have := next.2; have := last.2; omega⟩)

end Cursor

namespace Markup

/-- The root element of a document, with all its text. -/
def Element.parseAll (source : String) : Except Fault Element := do
  let start := Cursor.start source
  let start := if start.startsWith "\uFEFF" then (start.skip 1).1 else start
  let start ← if start.startsWith "<?xml " then (·.1) <$> start.readDeclaration else pure start
  let start ← start.skipMisc
  if start.1.startsWith "<!DOCTYPE" then throw .doctype
  if h : start.1.startsWith "<" then
    let (root, next) ← start.1.readRoot (by
      intro hempty
      simp [Cursor.startsWith, hempty] at h)
    let last ← next.1.skipMisc
    if !last.1.atEnd then throw (.unknownToken last.1.place)
    return root
  else if !start.1.atEnd then throw (.unknownToken start.1.place)
  else throw .noRoot

/-- Takes a text for a document or refuses it.  A reader may also refuse for want of room what is
well written. -/
abbrev Reader := String → Except Fault Element

/-- The root element of a document, without its blank pieces of text. -/
def Element.parse : Reader := fun source => (·.dropBlank) <$> parseAll source

end Markup

end Colloquy
