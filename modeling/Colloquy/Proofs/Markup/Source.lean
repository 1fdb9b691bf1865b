import Colloquy.Markup.Document
import Mathlib.Data.List.Forall2
import Mathlib.Data.List.Induction
import Mathlib.Data.List.ReduceOption

/-!
How documents are written: the parts that a source is made of, as far as they tell what is text and
what is not, and the pieces of text that tags, comments and instructions leave between them.
-/

namespace Colloquy.Markup

/-!
Names, references and tags.
-/

def IsSpaces (cs : List Char) : Prop := ∀ c ∈ cs, isSpace c = true

def IsName (cs : List Char) : Prop := cs ≠ [] ∧ ∀ c ∈ cs, isNameChar c = true

theorem isSpaces_nil : IsSpaces [] := List.forall_mem_nil _

theorem IsSpaces.not_mem {cs : List Char} (h : IsSpaces cs) {c : Char} (hc : isSpace c = false) :
    c ∉ cs := fun hmem => Bool.false_ne_true (hc.symm.trans (h c hmem))

instance (cs : List Char) : Decidable (IsName cs) :=
  decidable_of_iff (cs.isEmpty = false ∧ cs.all isNameChar = true) (by simp [IsName])

/-- A name without the part before its colon. -/
def localName (cs : List Char) : String :=
  String.ofList (if ':' ∈ cs then (cs.dropWhile (· ≠ ':')).drop 1 else cs)

/-- What stands for a character. -/
inductive IsReference : List Char → Char → Prop where
  | named {name : String} {c : Char} (known : namedCharacter? name = some c) :
      IsReference ('&' :: (name.toList ++ [';'])) c
  | decimal {digits : List Char} (filled : digits ≠ []) (digit : ∀ d ∈ digits, d.isDigit = true) :
      IsReference ('&' :: '#' :: (digits ++ [';'])) (characterOfCode (numberIn 10 digits))
  | hexadecimal {digits : List Char} (filled : digits ≠ [])
      (digit : ∀ d ∈ digits, isHexDigit d = true) :
      IsReference ('&' :: '#' :: 'x' :: (digits ++ [';'])) (characterOfCode (numberIn 16 digits))

/-- The characters of a run, with what stands for each of them. -/
inductive Resolves : List Char → List Piece → Prop where
  | nil : Resolves [] []
  | literal {c : Char} {run : List Char} {pieces : List Piece} (plain : c ≠ '&')
      (rest : Resolves run pieces) : Resolves (c :: run) (.literal c :: pieces)
  | referred {reference run : List Char} {c : Char} {pieces : List Piece}
      (here : IsReference reference c) (rest : Resolves run pieces) :
      Resolves (reference ++ run) (.referred c :: pieces)

inductive IsAttribute : List Char → Prop where
  | intro {name before after value : List Char} {quote : Char} (named : IsName name)
      (spacedBefore : IsSpaces before) (spacedAfter : IsSpaces after)
      (quotes : quote = '\'' ∨ quote = '"') (plain : quote ∉ value ∧ '<' ∉ value) :
      IsAttribute (name ++ (before ++ '=' :: (after ++ quote :: (value ++ [quote]))))

/-- What follows the name in a tag: attributes with spaces before each of them. -/
inductive IsAttributes : List Char → Prop where
  | none {spaces : List Char} (spaced : IsSpaces spaces) : IsAttributes spaces
  | one {spaces first rest : List Char} (filled : spaces ≠ []) (spaced : IsSpaces spaces)
      (here : IsAttribute first) (others : IsAttributes rest) :
      IsAttributes (spaces ++ (first ++ rest))

def TagEnd.written : TagEnd → List Char
  | .opens => ['>']
  | .closes => ['/', '>']
  | .cut => []

/-- A start tag, or the tag of an element without content. -/
inductive IsTag : List Char → String → TagEnd → Prop where
  | intro {name attributes : List Char} {tagEnd : TagEnd} (named : IsName name)
      (list : IsAttributes attributes) :
      IsTag ('<' :: (name ++ (attributes ++ tagEnd.written))) (localName name) tagEnd

inductive IsClose : List Char → String → Prop where
  | intro {name spaces : List Char} (named : IsName name) (spaced : IsSpaces spaces) :
      IsClose ('<' :: '/' :: (name ++ (spaces ++ ['>']))) (localName name)

/-!
Parts.
-/

/-- A part of a source.  A run of characters goes with what it stands for, and an element is written
from its tag to the tag that closes it, if there is one. -/
inductive Part where
  | run (written : List Char) (pieces : List Piece)
  | marked (content : List Char)
  | comment (content : List Char)
  | instruction (content : List Char)
  | element (tag : List Char) (parts : List Part) (close : List Char)

mutual

def Part.written : Part → List Char
  | .run written _ => written
  | .marked content => "<![CDATA[".toList ++ (content ++ "]]>".toList)
  | .comment content => "<!--".toList ++ (content ++ "-->".toList)
  | .instruction content => "<?".toList ++ (content ++ "?>".toList)
  | .element tag parts close => tag ++ (writtenParts parts ++ close)

def writtenParts : List Part → List Char
  | [] => []
  | part :: parts => part.written ++ writtenParts parts

end

@[simp] theorem writtenParts_nil : writtenParts [] = [] := rfl

@[simp] theorem writtenParts_cons (part : Part) (parts : List Part) :
    writtenParts (part :: parts) = part.written ++ writtenParts parts := rfl

theorem writtenParts_append (parts others : List Part) :
    writtenParts (parts ++ others) = writtenParts parts ++ writtenParts others := by
  induction parts with
  | nil => rfl
  | cons part parts ih => simp [ih]

namespace Part

section

variable (content : List Char)

@[simp] theorem written_run (written : List Char) (pieces : List Piece) :
    (run written pieces).written = written := rfl

@[simp] theorem written_marked :
    (marked content).written = "<![CDATA[".toList ++ (content ++ "]]>".toList) := rfl

@[simp] theorem written_comment :
    (comment content).written = "<!--".toList ++ (content ++ "-->".toList) := rfl

@[simp] theorem written_instruction :
    (instruction content).written = "<?".toList ++ (content ++ "?>".toList) := rfl

@[simp] theorem written_element (tag close : List Char) (parts : List Part) :
    (element tag parts close).written = tag ++ (writtenParts parts ++ close) := rfl

end

def IsRun : Part → Prop
  | .run .. => True
  | _ => False

def isElement : Part → Bool
  | .element .. => true
  | _ => false

/-- The mark follows the content, and it does so nowhere before. -/
def Stops (mark : String) (content : List Char) : Prop :=
  ∀ k < content.length, ¬ mark.toList <+: (content ++ mark.toList).drop k

/-- Runs go as far as they can, sections, comments and instructions end where they can, no
instruction looks like a declaration, and tags match. -/
inductive Proper : Part → Prop where
  | run {written : List Char} {pieces : List Piece} (filled : written ≠ []) (plain : '<' ∉ written)
      (resolved : Resolves written pieces) : Proper (.run written pieces)
  | marked {content : List Char} (stops : Stops "]]>" content) : Proper (.marked content)
  | comment {content : List Char} (stops : Stops "-->" content) : Proper (.comment content)
  | instruction {content : List Char} (stops : Stops "?>" content)
      (undeclared : ¬ "xml ".toList <+: content) : Proper (.instruction content)
  | element {name : String} {tag close : List Char} {parts : List Part}
      (opens : IsTag tag name .opens) (proper : ∀ part ∈ parts, Proper part)
      (apart : parts.IsChain fun a b => ¬ (a.IsRun ∧ b.IsRun))
      (closes : IsClose close name) : Proper (.element tag parts close)
  | empty {name : String} {tag : List Char} (closes : IsTag tag name .closes) :
      Proper (.element tag [] [])

/-- What may stand around the element of a document. -/
inductive IsMisc : Part → Prop where
  | spaces {written : List Char} {pieces : List Piece} (spaced : IsSpaces written) :
      IsMisc (.run written pieces)
  | comment {content : List Char} (proper : (comment content).Proper) : IsMisc (.comment content)
  | instruction {content : List Char} (proper : (instruction content).Proper) :
      IsMisc (.instruction content)

end Part

/-- A declaration, in which nothing is a tag. -/
def IsDeclaration (cs : List Char) : Prop :=
  ∃ content, cs = "<?xml ".toList ++ (content ++ "?>".toList) ∧ '<' ∉ content

/-- A source whose element is `root`: there may be a mark of the byte order, a declaration, and what
may stand before and after an element. -/
inductive IsDocument : List Char → Part → Prop where
  | intro {mark declaration : List Char} {before after : List Part} {root : Part}
      (marks : mark = [] ∨ mark = ['\uFEFF'])
      (declares : declaration = [] ∨ IsDeclaration declaration)
      (miscBefore : ∀ part ∈ before, part.IsMisc) (proper : root.Proper)
      (element : root.isElement = true) (miscAfter : ∀ part ∈ after, part.IsMisc) :
      IsDocument (mark ++ (declaration ++ (writtenParts before ++ (root.written ++
        writtenParts after)))) root

/-!
Text.
-/

mutual

/-- The character data of a part, in the order of the source, with a break for each tag, comment and
instruction. -/
def Part.stream : Part → List (Option String)
  | .run _ pieces => [some (textValue pieces)]
  | .marked content => [some (textValue (content.map .literal))]
  | .comment _ => [none]
  | .instruction _ => [none]
  | .element _ parts _ => none :: (streamOf parts ++ [none])

def streamOf : List Part → List (Option String)
  | [] => []
  | part :: parts => part.stream ++ streamOf parts

end

theorem streamOf_append (parts others : List Part) :
    streamOf (parts ++ others) = streamOf parts ++ streamOf others := by
  induction parts with
  | nil => rfl
  | cons part parts ih => rw [List.cons_append, streamOf, ih, streamOf, List.append_assoc]

theorem streamOf_concat (parts : List Part) (part : Part) :
    streamOf (parts ++ [part]) = streamOf parts ++ part.stream := by
  rw [streamOf_append, streamOf, streamOf, List.append_nil]

/-- All character data. -/
def characterDataIn (parts : List Part) : String := String.join (streamOf parts).reduceOption

/-- The pieces that are complete, and the one that goes on, after one more item of a stream. -/
def gather (gathered : List String × String) : Option String → List String × String
  | some data => (gathered.1, gathered.2 ++ data)
  | none => (gathered.1 ++ [gathered.2], "")

/-- The pieces of a stream: what stands between two breaks. -/
def piecesOf (stream : List (Option String)) : List String :=
  let gathered := stream.foldl gather ([], "")
  gathered.1 ++ [gathered.2]

theorem foldl_gather (stream : List (Option String)) (done : List String) (held : String) :
    stream.foldl gather (done, held) =
      (done ++ (stream.foldl gather ([], held)).1, (stream.foldl gather ([], held)).2) := by
  induction stream generalizing done held with
  | nil => simp
  | cons item stream ih =>
    cases item with
    | none => simp [gather, ih (done ++ [held]), ih [held]]
    | some data => simp [gather, ih done]

@[simp] theorem piecesOf_nil : piecesOf [] = [""] := rfl

theorem piecesOf_append_none (stream rest : List (Option String)) :
    piecesOf (stream ++ none :: rest) = piecesOf stream ++ piecesOf rest := by
  simp only [piecesOf, List.foldl_append, List.foldl_cons]
  simp [gather, foldl_gather rest (_ ++ [_])]

theorem piecesOf_append_some {stream : List (Option String)} {done : List String} {held : String}
    (h : piecesOf stream = done ++ [held]) (data : String) :
    piecesOf (stream ++ [some data]) = done ++ [held ++ data] := by
  obtain ⟨hdone, hheld⟩ := List.append_inj' h rfl
  simp [piecesOf, gather, hdone, List.cons.inj hheld]

@[simp] theorem join_piecesOf (stream : List (Option String)) :
    String.join (piecesOf stream) = String.join stream.reduceOption := by
  induction stream using List.reverseRecOn with
  | nil => rfl
  | append_singleton stream item ih =>
    cases item with
    | none => simpa [piecesOf_append_none, List.reduceOption_append] using ih
    | some data =>
      rw [List.reduceOption_append, String.join_append, ← ih]
      rw [piecesOf_append_some rfl]
      simp [piecesOf, String.append_assoc]

/-- The pieces that are not all blank. -/
def inked (pieces : List String) : List String :=
  pieces.filter fun piece => !Text.allBlank piece.toList

theorem inked_append (pieces others : List String) :
    inked (pieces ++ others) = inked pieces ++ inked others :=
  List.filter_append pieces others

@[simp] theorem inked_empty : inked [""] = [] := rfl

/-- The text of some parts: their pieces, except those that are all blank. -/
def textOf (parts : List Part) : String :=
  Text.trim (String.join (inked (piecesOf (streamOf parts))))

/-- Where no piece is all blank, the text is that of all character data. -/
theorem textOf_eq_trim {parts : List Part}
    (h : ∀ piece ∈ piecesOf (streamOf parts), Text.allBlank piece.toList = true → piece = "") :
    textOf parts = Text.trim (characterDataIn parts) := by
  rw [textOf, characterDataIn, ← join_piecesOf]
  generalize piecesOf (streamOf parts) = pieces at h
  congr 1
  induction pieces with
  | nil => rfl
  | cons piece pieces ih =>
    rw [List.forall_mem_cons] at h
    have hothers := ih h.2
    cases hblank : Text.allBlank piece.toList with
    | true => simpa [inked, Text.allBlank, h.1 hblank] using hothers
    | false => simpa [inked, hblank] using hothers

/-- The element has been read from that part, and so have the elements in it from those in the part,
one by one; the text of each of them is that of its part. -/
inductive Mirrors : Element → Part → Prop where
  | intro {e : Element} {tag close : List Char} {parts : List Part}
      (name : ∃ tagEnd, IsTag tag e.name tagEnd) (text : e.textContent = textOf parts)
      (elements : List.Forall₂ Mirrors e.elements (parts.filter Part.isElement)) :
      Mirrors e (.element tag parts close)

end Colloquy.Markup
