import Colloquy.Proofs.Markup.Passing
import Colloquy.Proofs.Markup.Unambiguous
import Mathlib.Data.List.Chain

/-!
What an element says of its source: its text is made of the pieces of text that stand in the source
between its tags, in their order, less those that are all blank.  The reader keeps the elements that
are still open on a stack; each of them goes with the parts that have been read of it.
-/

namespace Colloquy

open Markup

namespace Markup

/-!
The pieces in a tree.
-/

mutual

/-- The pieces of text inside the element, in document order. -/
def Element.pieces : Element → List String
  | ⟨_, _, children, _⟩ => piecesAmong children

def piecesAmong : List Node → List String
  | [] => []
  | .text value _ :: rest => value :: piecesAmong rest
  | .element e :: rest => e.pieces ++ piecesAmong rest

end

theorem piecesAmong_append (nodes others : List Node) :
    piecesAmong (nodes ++ others) = piecesAmong nodes ++ piecesAmong others := by
  induction nodes with
  | nil => rfl
  | cons node nodes ih =>
    cases node with
    | text value span => simp [piecesAmong, ih]
    | element e => simp [piecesAmong, ih]

mutual

theorem characterData_dropBlank : ∀ e : Element,
    e.dropBlank.characterData = String.join (inked e.pieces)
  | ⟨_, _, children, _⟩ => characterDataOf_dropBlankNodes children

theorem characterDataOf_dropBlankNodes : ∀ nodes : List Node,
    characterDataOf (dropBlankNodes nodes) = String.join (inked (piecesAmong nodes))
  | [] => rfl
  | .text value span :: rest => by
    have ih := characterDataOf_dropBlankNodes rest
    cases hblank : Text.allBlank value.toList with
    | true => simpa [dropBlankNodes, piecesAmong, inked, hblank] using ih
    | false => simpa [dropBlankNodes, piecesAmong, inked, hblank, characterDataOf] using ih
  | .element e :: rest => by
    rw [dropBlankNodes, characterDataOf, piecesAmong, inked_append, String.join_append,
      characterData_dropBlank e, characterDataOf_dropBlankNodes rest]

end

def Node.element? : Node → Option Element
  | .element e => some e
  | .text _ _ => none

@[simp] theorem Node.element?_element (e : Element) : (Node.element e).element? = some e := rfl

@[simp] theorem Node.element?_text (value : String) (span : Span) :
    (Node.text value span).element? = none := rfl

theorem tag_addText (e : Open) (value : String) (span : Span) (joins : Bool) :
    (e.addText value span joins).tag = e.tag := by
  unfold Open.addText
  split <;> rfl

theorem elements_addText (e : Open) (value : String) (span : Span) (joins : Bool) :
    (e.addText value span joins).children.filterMap Node.element? =
      e.children.filterMap Node.element? := by
  unfold Open.addText
  split
  · next hchildren =>
    rw [hchildren]
    rfl
  · rfl

theorem elements_eq (e : Element) : e.elements = e.children.filterMap Node.element? := by
  rw [Element.elements]
  congr 1

theorem elements_dropBlank (e : Element) :
    e.dropBlank.elements = e.elements.map Element.dropBlank := by
  obtain ⟨name, attributes, children, span⟩ := e
  rw [elements_eq, elements_eq, Element.dropBlank]
  induction children with
  | nil => rfl
  | cons node rest ih =>
    cases node with
    | text value span =>
      rw [dropBlankNodes]
      split <;> simpa [List.filterMap_cons] using ih
    | element e => simpa [dropBlankNodes] using ih

/-!
Open elements.
-/

/-- The nodes of an open element, latest first, hold the pieces that have been read of it.  If text
came last, the piece that goes on is the latest node. -/
inductive Holds : Bool → List Node → List String → Prop where
  | apart {children : List Node} {done : List String}
      (same : inked done = inked (piecesAmong children.reverse)) :
      Holds false children (done ++ [""])
  | joined {rest : List Node} {held : String} {span : Span} {done : List String}
      (same : inked done = inked (piecesAmong rest.reverse)) :
      Holds true (.text held span :: rest) (done ++ [held])

theorem Holds.inked_eq {joins : Bool} {children : List Node} {pieces : List String}
    (h : Holds joins children pieces) : inked pieces = inked (piecesAmong children.reverse) := by
  cases h with
  | apart same => rw [inked_append, inked_empty, List.append_nil, same]
  | joined same =>
    rw [inked_append, same, List.reverse_cons, piecesAmong_append, inked_append]
    rfl

theorem Holds.addText {joins : Bool} {e : Open} {stream : List (Option String)}
    (h : Holds joins e.children (piecesOf stream)) (value : String) (span : Span) :
    Holds true (e.addText value span joins).children (piecesOf (stream ++ [some value])) := by
  obtain ⟨tag, scope, children⟩ := e
  generalize hpieces : piecesOf stream = pieces at h
  cases h with
  | apart same =>
    rw [piecesOf_append_some hpieces, String.empty_append]
    exact .joined same
  | joined same =>
    rw [piecesOf_append_some hpieces]
    exact .joined same

theorem Holds.cut {joins : Bool} {children : List Node} {stream : List (Option String)}
    (h : Holds joins children (piecesOf stream)) :
    Holds false children (piecesOf (stream ++ [none])) := by
  rw [piecesOf_append_none]
  exact .apart h.inked_eq

theorem Holds.add {joins : Bool} {children : List Node} {stream inner : List (Option String)}
    (h : Holds joins children (piecesOf stream)) {e : Element}
    (same : inked (piecesOf inner) = inked e.pieces) :
    Holds false (.element e :: children) (piecesOf (stream ++ (none :: (inner ++ [none])))) := by
  rw [piecesOf_append_none, piecesOf_append_none, piecesOf_nil, ← List.append_assoc]
  refine .apart ?_
  rw [inked_append, h.inked_eq, same, List.reverse_cons, piecesAmong_append, inked_append]
  simp [piecesAmong]

/-- The element has been read from the part with that tag and those parts in it. -/
structure ReadFrom (e : Element) (tag : List Char) (parts : List Part) (close : List Char) :
    Prop where
  proper : (Part.element tag parts close).Proper
  mirrors : Mirrors e.dropBlank (.element tag parts close)
  same : inked (piecesOf (streamOf parts)) = inked e.pieces

/-- An open element in the source: its tag, and the parts that have been read after it. -/
structure Frame where
  tag : List Char
  parts : List Part

/-- What has been written of open elements, nearest first. -/
def writtenFrames : List Frame → List Char
  | [] => []
  | frame :: frames => writtenFrames frames ++ (frame.tag ++ writtenParts frame.parts)

namespace Frame

def add (frame : Frame) (part : Part) : Frame := { frame with parts := frame.parts ++ [part] }

/-- A run that came last goes as far as it can. -/
def Stops (frame : Frame) (rest : List Char) : Prop :=
  ∀ last ∈ frame.parts.getLast?, last.IsRun → rest = [] ∨ rest.head? = some '<'

/-- What the reader keeps of an open element says what the source says of it. -/
structure Fits (frame : Frame) (e : Open) (joins : Bool) : Prop where
  opens : IsTag frame.tag e.tag.name.name .opens
  proper : ∀ part ∈ frame.parts, part.Proper
  apart : frame.parts.IsChain fun a b => ¬ (a.IsRun ∧ b.IsRun)
  elements : List.Forall₂ (fun child part => Mirrors child.dropBlank part)
    (e.children.reverse.filterMap Node.element?) (frame.parts.filter Part.isElement)
  holds : Holds joins e.children (piecesOf (streamOf frame.parts))

theorem Fits.start {written : List Char} {tag : Tag} (h : IsTag written tag.name.name .opens)
    (scope : List (String × String)) : Fits ⟨written, []⟩ ⟨tag, scope, []⟩ false :=
  ⟨h, by simp, .nil, .nil, .apart rfl⟩

section

variable {frame : Frame} {e : Open} {joins : Bool}

theorem isChain_concat {parts : List Part} {part : Part}
    (h : parts.IsChain fun a b => ¬ (a.IsRun ∧ b.IsRun))
    (hpart : part.IsRun → ∀ last ∈ parts.getLast?, ¬ last.IsRun) :
    (parts ++ [part]).IsChain fun a b => ¬ (a.IsRun ∧ b.IsRun) := by
  refine h.append (.singleton part) fun last hlast next hnext hruns => ?_
  obtain rfl : part = next := by simpa using hnext
  exact hpart hruns.2 last hlast hruns.1

/-- Text has been read. -/
theorem Fits.addText {part : Part} {value : String} (h : Fits frame e joins) (hpart : part.Proper)
    (hrun : part.IsRun → ∀ last ∈ frame.parts.getLast?, ¬ last.IsRun)
    (helement : part.isElement = false) (hstream : part.stream = [some value]) (span : Span) :
    Fits (frame.add part) (e.addText value span joins) true where
  opens := by
    rw [tag_addText]
    exact h.opens
  proper := List.forall_mem_append.mpr ⟨h.proper, by simpa using hpart⟩
  apart := isChain_concat h.apart hrun
  elements := by
    rw [List.filterMap_reverse, elements_addText, ← List.filterMap_reverse]
    simpa [add, helement] using h.elements
  holds := by
    rw [add, streamOf_concat, hstream]
    exact h.holds.addText value span

/-- A comment or an instruction has been read. -/
theorem Fits.cut {part : Part} (h : Fits frame e joins) (hpart : part.Proper)
    (hrun : ¬ part.IsRun) (helement : part.isElement = false) (hstream : part.stream = [none]) :
    Fits (frame.add part) e false where
  opens := h.opens
  proper := List.forall_mem_append.mpr ⟨h.proper, by simpa using hpart⟩
  apart := isChain_concat h.apart fun hruns => absurd hruns hrun
  elements := by
    simpa [add, helement] using h.elements
  holds := by
    rw [add, streamOf_concat, hstream]
    exact h.holds.cut

/-- An element has been read. -/
theorem Fits.addElement {child : Element} {tag close : List Char} {parts : List Part}
    (h : Fits frame e joins) (hchild : ReadFrom child tag parts close) :
    Fits (frame.add (.element tag parts close)) (e.add (.element child)) false where
  opens := h.opens
  proper := List.forall_mem_append.mpr ⟨h.proper, by simpa using hchild.proper⟩
  apart := isChain_concat h.apart False.elim
  elements := by
    rw [add, List.filter_append, Open.add, List.reverse_cons, List.filterMap_append]
    exact List.rel_append h.elements (.cons hchild.mirrors .nil)
  holds := by
    rw [add, streamOf_concat]
    exact h.holds.add hchild.same

theorem Fits.close {close : List Char} (h : Fits frame e joins)
    (hclose : IsClose close e.tag.name.name) (stop : Location) :
    ReadFrom (e.close stop) frame.tag frame.parts close where
  proper := .element h.opens h.proper h.apart hclose
  mirrors := by
    refine .intro ⟨.opens, ?_⟩ ?_ ?_
    · rw [Element.name_dropBlank]
      exact h.opens
    · rw [Element.textContent, characterData_dropBlank, textOf, h.holds.inked_eq]
      rfl
    · rw [elements_dropBlank, elements_eq, List.forall₂_map_left_iff]
      exact h.elements
  same := h.holds.inked_eq

end

theorem stops_add {part : Part} (hpart : ¬ part.IsRun) (frame : Frame) (rest : List Char) :
    (frame.add part).Stops rest := by
  intro last hlast hrun
  obtain rfl : part = last := by simpa [add] using hlast
  exact absurd hrun hpart

end Frame

theorem ReadFrom.empty {written : List Char} {tag : Tag} (h : IsTag written tag.name.name .closes)
    (scope : List (String × String)) (stop : Location) :
    ReadFrom ((Open.mk tag scope []).close stop) written [] [] where
  proper := .empty h
  mirrors := by
    refine .intro ⟨.closes, ?_⟩ rfl .nil
    rw [Element.name_dropBlank]
    exact h
  same := rfl

/-- What has been written of open elements, together with what follows, is what is written of one
element, up to the rest. -/
def Completes (frames : List Frame) (written : List Char) (root : Element) (rest : List Char) :
    Prop :=
  ∃ tag parts close, ReadFrom root tag parts close ∧
    writtenFrames frames ++ written = (Part.element tag parts close).written ++ rest

section

variable {frame parent : Frame} {frames : List Frame} {written goesOn rest : List Char}
  {root : Element}

theorem Completes.of_add {part : Part}
    (h : Completes (frame.add part :: frames) goesOn root rest)
    (hwritten : written = part.written ++ goesOn) :
    Completes (frame :: frames) written root rest := by
  obtain ⟨tag, parts, close, hroot, heq⟩ := h
  refine ⟨tag, parts, close, hroot, heq ▸ ?_⟩
  simp [hwritten, writtenFrames, Frame.add, writtenParts_append]

theorem Completes.of_open {tag : List Char} (h : Completes (⟨tag, []⟩ :: frames) goesOn root rest)
    (hwritten : written = tag ++ goesOn) : Completes frames written root rest := by
  obtain ⟨outermost, parts, close, hroot, heq⟩ := h
  refine ⟨outermost, parts, close, hroot, heq ▸ ?_⟩
  simp [hwritten, writtenFrames]

theorem Completes.of_close {close : List Char}
    (h : Completes (parent.add (.element frame.tag frame.parts close) :: frames) goesOn root rest)
    (hwritten : written = close ++ goesOn) :
    Completes (frame :: parent :: frames) written root rest := by
  obtain ⟨tag, parts, ending, hroot, heq⟩ := h
  refine ⟨tag, parts, ending, hroot, heq ▸ ?_⟩
  simp [hwritten, writtenFrames, Frame.add, writtenParts_append]

end

end Markup

namespace Cursor

theorem readContent_eq_ok {cursor : Cursor} {inner : Open} {outer : List Open}
    {frames : List Frame} {joins : Bool} {root : Element} {last : Onward cursor}
    (h : cursor.readContent inner outer joins = .ok (root, last)) {frame : Frame}
    (hinner : frame.Fits inner joins)
    (houter : List.Forall₂ (fun frame e => ∃ joins, frame.Fits e joins) frames outer)
    (hstops : frame.Stops cursor.rest) :
    Completes (frame :: frames) cursor.rest root last.1.rest := by
  unfold readContent at h
  split at h
  · cases h
  next hempty =>
  -- A comment.
  split at h
  · next hstarts =>
    obtain ⟨next, hnext, h⟩ := exists_of_bind_eq_ok h
    obtain ⟨⟨root, last⟩, hread, h⟩ := exists_of_bind_eq_ok h
    cases h
    obtain ⟨content, hproper, hrest⟩ := readComment_eq_ok hnext hstarts
    exact (readContent_eq_ok hread (hinner.cut hproper id rfl rfl) houter
      (Frame.stops_add id _ _)).of_add hrest
  -- A section.
  split at h
  · next hstarts =>
    obtain ⟨⟨pieces, next⟩, hnext, h⟩ := exists_of_bind_eq_ok h
    obtain ⟨⟨root, last⟩, hread, h⟩ := exists_of_bind_eq_ok h
    cases h
    obtain ⟨content, hproper, rfl, hrest⟩ := readSection_eq_ok hnext hstarts
    exact (readContent_eq_ok hread (hinner.addText hproper False.elim rfl rfl _) houter
      (Frame.stops_add id _ _)).of_add hrest
  split at h
  · cases h
  -- An instruction.
  split at h
  · next hstarts =>
    obtain ⟨next, hnext, h⟩ := exists_of_bind_eq_ok h
    obtain ⟨⟨root, last⟩, hread, h⟩ := exists_of_bind_eq_ok h
    cases h
    obtain ⟨content, hproper, hrest⟩ := readInstruction_eq_ok hnext hstarts
    exact (readContent_eq_ok hread (hinner.cut hproper id rfl rfl) houter
      (Frame.stops_add id _ _)).of_add hrest
  -- The tag that closes the innermost element.
  split at h
  · next hstarts =>
    obtain ⟨⟨name, next⟩, hnext, h⟩ := exists_of_bind_eq_ok h
    obtain ⟨hname, h⟩ := eq_of_guard_eq_ok h
    obtain ⟨close, hclose, hrest⟩ := readClose_eq_ok hnext hstarts
    rw [Decidable.of_not_not hname] at hclose
    extract_lets closed at h
    split at h
    · obtain ⟨rfl, rfl⟩ := Prod.mk.inj (Except.ok.inj h)
      cases houter
      exact ⟨_, _, _, hinner.close hclose _, by simp [writtenFrames, hrest]⟩
    · obtain ⟨⟨root, last⟩, hread, h⟩ := exists_of_bind_eq_ok h
      cases h
      cases houter with
      | cons hparent hothers =>
        obtain ⟨joinsParent, hparent⟩ := hparent
        exact (readContent_eq_ok hread (hparent.addElement (hinner.close hclose _)) hothers
          (Frame.stops_add id _ _)).of_close hrest
  -- A tag.
  split at h
  · next hstarts =>
    obtain ⟨⟨tag, tagEnd, next⟩, hnext, h⟩ := exists_of_bind_eq_ok h
    simp only at h
    split at h
    · cases h
    · obtain ⟨scope, -, h⟩ := exists_of_bind_eq_ok h
      obtain ⟨⟨root, last⟩, hread, h⟩ := exists_of_bind_eq_ok h
      cases h
      obtain ⟨written, htag, hrest⟩ := readTag_eq_ok hnext (by decide) hstarts
      exact (readContent_eq_ok hread (hinner.addElement (.empty htag scope _)) houter
        (Frame.stops_add id _ _)).of_add (by simpa using hrest)
    · obtain ⟨scope, -, h⟩ := exists_of_bind_eq_ok h
      obtain ⟨⟨root, last⟩, hread, h⟩ := exists_of_bind_eq_ok h
      cases h
      obtain ⟨written, htag, hrest⟩ := readTag_eq_ok hnext (by decide) hstarts
      exact (readContent_eq_ok hread (.start htag scope) (.cons ⟨_, hinner⟩ houter)
        (by simp [Frame.Stops])).of_open hrest
  -- Text, which does not follow another run: that one would have gone on.
  next hstarts =>
  obtain ⟨⟨pieces, next⟩, hnext, h⟩ := exists_of_bind_eq_ok h
  obtain ⟨⟨root, last⟩, hread, h⟩ := exists_of_bind_eq_ok h
  cases h
  obtain ⟨written, filled, plain, resolved, hrest, hends⟩ :=
    readText_eq_ok hnext (by simpa using hstarts)
  have hlast : ∀ last ∈ frame.parts.getLast?, ¬ last.IsRun := fun last hlast hrun =>
    (hstops last hlast hrun).elim hempty fun hhead => hstarts (startsWith_of_head hhead)
  exact (readContent_eq_ok hread
    (hinner.addText (.run filled plain resolved) (fun _ => hlast) rfl rfl _) houter
    fun _ _ _ => hends).of_add hrest
termination_by cursor.size
decreasing_by
  all_goals exact next.2

theorem readRoot_eq_ok {cursor : Cursor} {hempty : cursor.rest ≠ []} {root : Element}
    {last : Onward cursor} (h : cursor.readRoot hempty = .ok (root, last))
    (hstarts : cursor.startsWith "<" = true) : Completes [] cursor.rest root last.1.rest := by
  unfold readRoot at h
  obtain ⟨⟨tag, tagEnd, next⟩, hnext, h⟩ := exists_of_bind_eq_ok h
  simp only at h
  split at h
  · cases h
  · obtain ⟨scope, -, h⟩ := exists_of_bind_eq_ok h
    cases h
    obtain ⟨written, htag, hrest⟩ := readTag_eq_ok hnext (by decide) hstarts
    exact ⟨written, [], [], .empty htag scope _, by simpa [writtenFrames] using hrest⟩
  · obtain ⟨scope, -, h⟩ := exists_of_bind_eq_ok h
    obtain ⟨⟨root, last⟩, hread, h⟩ := exists_of_bind_eq_ok h
    cases h
    obtain ⟨written, htag, hrest⟩ := readTag_eq_ok hnext (by decide) hstarts
    exact (readContent_eq_ok hread (.start htag scope) .nil (by simp [Frame.Stops])).of_open hrest

end Cursor

namespace Markup

theorem Element.parseAll_eq_ok {source : String} {root : Element}
    (h : Element.parseAll source = .ok root) :
    ∃ tag parts close, IsDocument source.toList (.element tag parts close) ∧
      ReadFrom root tag parts close := by
  unfold Element.parseAll at h
  extract_lets start afterMark goOn at h
  obtain ⟨mark, hmark, hrest⟩ : ∃ mark, (mark = [] ∨ mark = ['\uFEFF']) ∧
      source.toList = mark ++ afterMark.rest := by
    by_cases hstarts : start.startsWith "\uFEFF"
    · obtain ⟨back, hback⟩ := Cursor.exists_of_startsWith hstarts
      refine ⟨['\uFEFF'], .inr rfl, ?_⟩
      have hstart : start.rest = '\uFEFF' :: back := hback
      simp only [afterMark, if_pos hstarts, Cursor.rest_skip, hstart]
      exact hstart
    · refine ⟨[], .inl rfl, ?_⟩
      simp only [afterMark, if_neg hstarts, List.nil_append]
      rfl
  obtain ⟨declared, declaration, hdeclaration, hdeclared, h⟩ :
      ∃ declared declaration, (declaration = [] ∨ IsDeclaration declaration) ∧
        afterMark.rest = declaration ++ declared.rest ∧ goOn declared = .ok root := by
    split at h
    · next hstarts =>
      obtain ⟨declared, hread, h⟩ := exists_of_bind_eq_ok h
      cases hnext : afterMark.readDeclaration with
      | error fault =>
          rw [hnext] at hread
          cases hread
      | ok next =>
          rw [hnext] at hread
          cases hread
          obtain ⟨declaration, hdeclaration, hrest⟩ := Cursor.readDeclaration_eq_ok hnext hstarts
          exact ⟨next.1, declaration, .inr hdeclaration, hrest, h⟩
    · exact ⟨afterMark, [], .inl rfl, rfl, h⟩
  obtain ⟨first, hfirst, h⟩ := exists_of_bind_eq_ok h
  obtain ⟨-, h⟩ := eq_of_guard_eq_ok h
  split at h
  · next hstarts =>
    obtain ⟨⟨root, next⟩, hroot, h⟩ := exists_of_bind_eq_ok h
    obtain ⟨last, hlast, h⟩ := exists_of_bind_eq_ok h
    obtain ⟨hend, h⟩ := eq_of_guard_eq_ok h
    cases h
    obtain ⟨before, hbefore, hfirstRest⟩ := Cursor.miscTo_skipMisc hfirst
    obtain ⟨after, hafter, hnextRest⟩ := Cursor.miscTo_skipMisc hlast
    obtain ⟨tag, parts, close, hread, helement⟩ := Cursor.readRoot_eq_ok hroot hstarts
    have hnil : last.1.rest = [] := by simpa using hend
    refine ⟨tag, parts, close, ?_, hread⟩
    have hsource : source.toList = mark ++ (declaration ++ (writtenParts before ++
        ((Part.element tag parts close).written ++ writtenParts after))) := by
      rw [writtenFrames, List.nil_append, hnextRest, hnil, List.append_nil] at helement
      rw [hrest, hdeclared, hfirstRest, helement]
    rw [hsource]
    exact .intro hmark hdeclaration hbefore hread.proper rfl hafter
  · split at h
    · cases h
    · cases h

/-- An accepted source has one reading, and the text of each of its elements is that of its part in
it: the pieces of character data between tags, comments and instructions, less those that are all
blank. -/
theorem Element.parse_mirrors {source : String} {root : Element}
    (h : Element.parse source = .ok root) :
    ∃ document, IsDocument source.toList document ∧
      (∀ other, IsDocument source.toList other → other = document) ∧ Mirrors root document := by
  unfold Element.parse at h
  cases hall : Element.parseAll source with
  | error fault =>
      rw [hall] at h
      cases h
  | ok all =>
      rw [hall] at h
      cases h
      obtain ⟨tag, parts, close, hdocument, hread⟩ := parseAll_eq_ok hall
      exact ⟨_, hdocument, fun _ hother => hother.unique hdocument, hread.mirrors⟩

def inlineSource : String := "<p>a<b>Red</b> <i>wine</i> &amp;<!-- still --> <![CDATA[<]]>5</p>"

theorem Element.parse_mirrors_inline :
    ∃ root, Element.parse inlineSource = .ok root ∧ root.textContent = "aRedwine & <5" ∧
      ∃ document, IsDocument inlineSource.toList document ∧
        (∀ other, IsDocument inlineSource.toList other → other = document) ∧
          Mirrors root document := by
  have htext : Element.textContent <$> Element.parse inlineSource = .ok "aRedwine & <5" := by
    decide +kernel
  cases hparse : Element.parse inlineSource with
  | error fault =>
      rw [hparse] at htext
      cases htext
  | ok root =>
      rw [hparse] at htext
      exact ⟨root, rfl, Except.ok.inj htext, parse_mirrors hparse⟩

/-- An element whose tag has no attributes. -/
def plainElement (name : List Char) (parts : List Part) : Part :=
  .element ('<' :: (name ++ ['>'])) parts ('<' :: '/' :: (name ++ ['>']))

theorem proper_plainElement {name : List Char} {parts : List Part} (named : IsName name)
    (proper : ∀ part ∈ parts, part.Proper)
    (apart : parts.IsChain fun a b => ¬ (a.IsRun ∧ b.IsRun)) :
    (plainElement name parts).Proper :=
  .element (@IsTag.intro name [] .opens named (.none isSpaces_nil)) proper apart
    (@IsClose.intro name [] named isSpaces_nil)

/-- A run without references. -/
def plainRun (run : List Char) : Part := .run run (run.map .literal)

theorem proper_plainRun {run : List Char} (filled : run ≠ []) (plain : '<' ∉ run)
    (unreferred : '&' ∉ run) : (plainRun run).Proper := by
  refine .run filled plain ?_
  clear filled plain
  induction run with
  | nil => exact .nil
  | cons c run ih =>
    rw [List.mem_cons, not_or] at unreferred
    exact .literal (Ne.symm unreferred.1) (ih unreferred.2)

def inlineParts : List Part :=
  [plainElement ['b'] [plainRun ['R', 'e', 'd']], plainRun [' '],
    plainElement ['i'] [plainRun ['w', 'i', 'n', 'e']]]

theorem isDocument_inline :
    IsDocument "<p><b>Red</b> <i>wine</i></p>".toList (plainElement ['p'] inlineParts) := by
  have hwritten : "<p><b>Red</b> <i>wine</i></p>".toList =
      [] ++ ([] ++ (writtenParts [] ++ ((plainElement ['p'] inlineParts).written ++
        writtenParts []))) := by
    decide +kernel
  have hrun : ∀ {run : List Char}, run ≠ [] → '<' ∉ run → '&' ∉ run →
      ∀ part ∈ [plainRun run], part.Proper := fun filled plain unreferred =>
    List.forall_mem_singleton.mpr (proper_plainRun filled plain unreferred)
  have hparts : ∀ part ∈ inlineParts, part.Proper := by
    simp only [inlineParts, List.forall_mem_cons]
    refine ⟨proper_plainElement (by decide) (hrun ?_ ?_ ?_) (.singleton _),
      proper_plainRun ?_ ?_ ?_,
      proper_plainElement (by decide) (hrun ?_ ?_ ?_) (.singleton _), List.forall_mem_nil _⟩
    all_goals decide
  rw [hwritten]
  refine .intro (.inl rfl) (.inl rfl) (List.forall_mem_nil _)
    (proper_plainElement (by decide) hparts ?_) rfl (List.forall_mem_nil _)
  simp [inlineParts, plainElement, Part.IsRun]

/-- Blank text between two elements is character data, but it is left out of the text. -/
theorem Element.textContent_without_blank_piece :
    Element.textContent <$> Element.parse "<p><b>Red</b> <i>wine</i></p>" = .ok "Redwine" ∧
      IsDocument "<p><b>Red</b> <i>wine</i></p>".toList (plainElement ['p'] inlineParts) ∧
      Text.trim (characterDataIn inlineParts) = "Red wine" :=
  ⟨by decide +kernel, isDocument_inline, by decide +kernel⟩

end Markup

end Colloquy
