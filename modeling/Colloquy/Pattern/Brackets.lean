import Colloquy.Pattern.Escape

/-!
Sets of characters in brackets.  Brackets nest; operations on sets have no precedence and bind what
stands to their left.
-/

namespace Colloquy.Pattern

open Cursor (Beyond Onward)

/-- Brackets whose end is still to come.  `span` goes from the opening bracket to what counts as
its own: the sign of negation and literal characters right behind.  `left` waits for its right
side; `items` is what has been read since `place`, latest first. -/
structure OpenBracket where
  negated : Bool
  span : Span
  left : Option (SetOperation × Part Bracket)
  place : Location
  items : List (Part Bracket)

namespace OpenBracket

def add (b : OpenBracket) (item : Part Bracket) : OpenBracket :=
  { b with items := item :: b.items }

private def right (b : OpenBracket) : Part Bracket :=
  let items := b.items.reverse
  let start := (items.head?.map (·.span.start)).getD b.place
  let stop := (b.items.head?.map (·.span.stop)).getD b.place
  .join .union .empty ⟨start, stop⟩ items

def content (b : OpenBracket) : Part Bracket :=
  match b.left with
  | none => b.right
  | some (operation, left) => left.both b.right (.combined operation)

def operate (b : OpenBracket) (operation : SetOperation) (place : Location) : OpenBracket :=
  { b with left := some (operation, b.content), place, items := [] }

end OpenBracket

/-- Hyphens right at the start stand for themselves. -/
private def readHyphens (extended : Bool) (start : Location) (cursor : Cursor) :
    Except Fault (List (Part Bracket) × Onward cursor) :=
  match hrest : cursor.rest with
  | '-' :: _ => do
    let next := cursor.step extended (by simp [hrest])
    if next.1.atEnd then refuse .classUnclosed ⟨start, start⟩
    else
      let (items, last) ← readHyphens extended start next.1
      let span := cursor.characterSpan
      return (items ++ [{ value := .literal ⟨'-', false, span⟩, span }],
        ⟨last.1, Nat.le_trans last.2 (Nat.le_of_lt next.2)⟩)
  | _ => .ok ([], cursor.stay)
termination_by cursor.size
decreasing_by exact next.2

/-- An opening bracket, and what follows it: a sign of negation, then hyphens or one closing bracket
that stand for themselves. -/
private def readOpening (extended : Bool) (cursor : Cursor) (h : cursor.rest ≠ []) :
    Except Fault (OpenBracket × Beyond cursor) := do
  let start := cursor.place
  let first := cursor.step extended h
  if hfirst : first.1.rest = [] then refuse .classUnclosed ⟨start, first.1.place⟩
  else
    let negated := first.1.startsWith "^"
    let inner : Onward first.1 :=
      if negated then ⟨_, Nat.le_of_lt (first.1.step extended hfirst).2⟩
      else first.1.stay
    if inner.1.atEnd then refuse .classUnclosed ⟨start, inner.1.place⟩
    else
      let (hyphens, next) ← readHyphens extended start inner.1
      match hclosing : next.1.rest, hyphens with
      | ']' :: _, [] =>
        let last := next.1.step extended (by simp [hclosing])
        if last.1.atEnd then refuse .classUnclosed ⟨start, last.1.place⟩
        else
          let span := next.1.characterSpan
          return (⟨negated, ⟨start, last.1.place⟩, none, inner.1.place,
            [{ value := .literal ⟨']', false, span⟩, span }]⟩, ⟨last.1, by
              have := first.2; have := inner.2; have := next.2; have := last.2; omega⟩)
      | _, _ =>
        return (⟨negated, ⟨start, next.1.place⟩, none, inner.1.place, hyphens⟩, ⟨next.1, by
          have := first.2; have := inner.2; have := next.2; omega⟩)

/-- A named set such as `[:alpha:]`, from its bracket; none if there is no such set. -/
private def readAsciiSet? (cursor : Cursor) : Option (Part Bracket × Beyond cursor) := do
  let opening ← cursor.skipText? "[:"
  let negated := opening.1.startsWith "^"
  let name := opening.1.skip (if negated then 1 else 0)
  let (letters, stop) := name.1.takeWhile (· ≠ ':')
  let set ← asciiSet? (String.ofList letters)
  let next ← stop.1.skipText? ":]"
  if h : next.1.size < cursor.size then
    let span : Span := ⟨cursor.place, next.1.place⟩
    return ({ value := .ascii set negated span, span }, ⟨next.1, h⟩)
  else none

/-- A character within brackets, written as itself or by an escape sequence. -/
private def readMember (extended : Bool) (cursor : Cursor) (h : cursor.rest ≠ []) :
    Except Fault (Atom × Beyond cursor) :=
  match hrest : cursor.rest with
  | '\\' :: _ => readEscape extended cursor h
  | c :: _ =>
    .ok (.literal ⟨c, false, cursor.characterSpan⟩, cursor.advance h)
  | [] => absurd hrest h

private def memberOf : Atom → Except Fault Bracket
  | .literal l => .ok (.literal l)
  | .shorthand kind negated span => .ok (.shorthand kind negated span)
  | .property name negated span => .ok (.property name negated span)
  | .assertion _ span => refuse .classEscape span
  | .anyCharacter span => refuse .classEscape span

private def boundOf : Atom → Except Fault Literal
  | .literal l => .ok l
  | atom => refuse .classRangeBound atom.span

/-- One member, or a range of characters; `unclosed` is the span to blame if the text ends here. -/
private def readRange (extended : Bool) (unclosed : Span) (cursor : Cursor)
    (h : cursor.rest ≠ []) : Except Fault (Part Bracket × Beyond cursor) := do
  let (first, afterFirst) ← readMember extended cursor h
  let sign := afterFirst.1.skipIgnored extended
  if hsign : sign.1.rest = [] then refuse .classUnclosed unclosed
  else
    let second := sign.1.second? extended
    if !sign.1.startsWith "-" || second == some ']' || second == some '-' then
      let member ← memberOf first
      return ({ value := member, span := first.span },
        ⟨sign.1, Nat.lt_of_le_of_lt sign.2 afterFirst.2⟩)
    else
      let next := sign.1.step extended hsign
      if hnext : next.1.rest = [] then refuse .classUnclosed unclosed
      else
        let (last, afterLast) ← readMember extended next.1 hnext
        let low ← boundOf first
        let high ← boundOf last
        let span : Span := ⟨first.span.start, last.span.stop⟩
        if high.char < low.char then refuse .classRangeOrder span
        else return ({ value := .range low high, span }, ⟨afterLast.1, by
          have := afterFirst.2; have := sign.2; have := next.2; have := afterLast.2; omega⟩)

private def operation? (cursor : Cursor) : Option SetOperation :=
  if cursor.startsWith "&&" then some .intersection
  else if cursor.startsWith "--" then some .difference
  else if cursor.startsWith "~~" then some .symmetricDifference
  else none

/-- Reads on within the brackets `inner`, which stand in those of `outer`, nearest first, until the
outermost ones are closed. -/
private def readInside (extended : Bool) (cursor : Cursor) (inner : OpenBracket)
    (outer : List OpenBracket) : Except Fault (Part Term × Onward cursor) :=
  let start := cursor.skipIgnored extended
  if hstart : start.1.rest = [] then refuse .classUnclosed inner.span
  else if start.1.startsWith "[" then
    match readAsciiSet? start.1 with
    | some (set, next) => do
      let (term, last) ← readInside extended next.1 (inner.add set) outer
      return (term, ⟨last.1, Nat.le_trans last.2 (Nat.le_trans (Nat.le_of_lt next.2) start.2)⟩)
    | none => do
      let (bracket, next) ← readOpening extended start.1 hstart
      let (term, last) ← readInside extended next.1 bracket (inner :: outer)
      return (term, ⟨last.1, Nat.le_trans last.2 (Nat.le_trans (Nat.le_of_lt next.2) start.2)⟩)
  else if start.1.startsWith "]" then
    let next := start.1.advance hstart
    let span : Span := ⟨inner.span.start, next.1.place⟩
    match outer with
    | [] => .ok (inner.content.within span (.bracket · inner.negated span),
        ⟨next.1, Nat.le_trans (Nat.le_of_lt next.2) start.2⟩)
    | parent :: others => do
      let closed := parent.add (inner.content.within span (.nested · inner.negated span))
      let (term, last) ← readInside extended next.1 closed others
      return (term, ⟨last.1, Nat.le_trans last.2 (Nat.le_trans (Nat.le_of_lt next.2) start.2)⟩)
  else match operation? start.1 with
    | some operation => do
      let next := start.1.advance hstart
      let right := next.1.skip 1
      let (term, last) ← readInside extended right.1 (inner.operate operation right.1.place) outer
      return (term, ⟨last.1, Nat.le_trans last.2
        (Nat.le_trans right.2 (Nat.le_trans (Nat.le_of_lt next.2) start.2))⟩)
    | none => do
      let (item, next) ← readRange extended inner.span start.1 hstart
      let (term, last) ← readInside extended next.1 (inner.add item) outer
      return (term, ⟨last.1, Nat.le_trans last.2 (Nat.le_trans (Nat.le_of_lt next.2) start.2)⟩)
termination_by cursor.size
decreasing_by
  all_goals first
    | exact Nat.lt_of_lt_of_le next.2 start.2
    | exact Nat.lt_of_le_of_lt right.2 (Nat.lt_of_lt_of_le next.2 start.2)

def readBrackets (extended : Bool) (cursor : Cursor) (h : cursor.rest ≠ []) :
    Except Fault (Part Term × Beyond cursor) := do
  let (bracket, next) ← readOpening extended cursor h
  let (term, last) ← readInside extended next.1 bracket []
  return (term, ⟨last.1, Nat.lt_of_le_of_lt last.2 next.2⟩)

end Colloquy.Pattern
