import Colloquy.Pattern.Brackets
import Colloquy.Text.Property.Current

/-!
Groups, their flags and names, repetitions, and whole patterns.
-/

namespace Colloquy.Pattern

open Cursor (Beyond Onward)

/-!
Counts between braces.
-/

private def readDecimalDigits (extended : Bool) (cursor : Cursor) : List Char × Onward cursor :=
  match hrest : cursor.rest with
  | [] => ([], cursor.stay)
  | c :: _ =>
    if c.isDigit then
      let next := cursor.step extended (by simp [hrest])
      let (digits, last) := readDecimalDigits extended next.1
      (c :: digits, ⟨last.1, Nat.le_trans last.2 (Nat.le_of_lt next.2)⟩)
    else ([], cursor.stay)
termination_by cursor.size
decreasing_by exact next.2

/-- A number below 2^32 with blanks around it.  Reading goes on after a bad number, since a fault
further on may come first. -/
private def readDecimal (extended : Bool) (cursor : Cursor) :
    Except Fault Nat × Onward cursor :=
  let start := (cursor.takeWhile Text.isBlank).2
  let (digits, stop) := readDecimalDigits extended start.1
  let last := (stop.1.takeWhile Text.isBlank).2
  let span : Span := ⟨start.1.place, stop.1.place⟩
  let value := digits.foldl (fun n c => n * 10 + (c.toNat - 48)) 0
  (if digits = [] then refuse .countMissing span
    else if value < 0x100000000 then .ok value
    else refuse .decimalInvalid span,
    ⟨last.1, Nat.le_trans last.2 (Nat.le_trans stop.2 start.2)⟩)

/-- The counts between braces, from the opening one: the least, and the most if there is one. -/
private def readCounts (extended : Bool) (cursor : Cursor) (h : cursor.rest ≠ []) :
    Except Fault ((Nat × Option Nat) × Beyond cursor) := do
  let start := cursor.place
  let first := cursor.step extended h
  if first.1.atEnd then refuse .countUnclosed ⟨start, first.1.place⟩
  let (least, afterLeast) := readDecimal extended first.1
  if hleast : afterLeast.1.rest = [] then refuse .countUnclosed ⟨start, afterLeast.1.place⟩
  else
    let (counts, stop) ← show Except Fault ((Nat × Option Nat) × Onward afterLeast.1) from do
      if afterLeast.1.startsWith "," then
        let next := afterLeast.1.step extended hleast
        if next.1.atEnd then refuse .countUnclosed ⟨start, next.1.place⟩
        if next.1.startsWith "\x7d" then
          return ((← least, none), ⟨next.1, Nat.le_of_lt next.2⟩)
        else
          let least ← least
          let (most, afterMost) := readDecimal extended next.1
          return ((least, some (← most)),
            ⟨afterMost.1, Nat.le_trans afterMost.2 (Nat.le_of_lt next.2)⟩)
      else
        let count ← least
        return ((count, some count), afterLeast.1.stay)
    if hstop : stop.1.startsWith "\x7d" then
      let next := stop.1.step extended (by
        intro hempty
        simp [Cursor.startsWith, hempty] at hstop)
      let last := next.1.skip (if next.1.startsWith "?" then 1 else 0)
      if counts.2.any (· < counts.1) then refuse .countOrder ⟨start, last.1.place⟩
      else
        return (counts, ⟨last.1, by
          have := first.2; have := afterLeast.2; have := stop.2; have := next.2
          have := last.2; omega⟩)
    else refuse .countUnclosed ⟨start, stop.1.place⟩

/-!
Flags and names.
-/

/-- The flags up to a colon or a closing parenthesis, latest first, each with the place where it
stands.  `negation` is the span of the sign after which flags are cleared. -/
private def readFlags (cursor : Cursor) (found : List (Flag × Bool × Span))
    (negation : Option Span) (negationLast : Bool) :
    Except Fault (FlagChanges × Onward cursor) :=
  match hrest : cursor.rest with
  | [] => refuse .flagsUnfinished cursor.emptySpan
  | c :: _ =>
    let span := cursor.characterSpan
    if c = ':' ∨ c = ')' then
      match negation, negationLast with
      | some sign, true => refuse .flagNegationDangling sign
      | _, _ =>
        .ok (found.reverse.map fun (flag, set, _) => (flag, set), cursor.stay)
    else if c = '-' then
      match negation with
      | some earlier => .error ⟨.flagNegationRepeated, span, some earlier⟩
      | none => do
        let next := cursor.advance (by simp [hrest])
        let (changes, last) ← readFlags next.1 found (some span) true
        return (changes, ⟨last.1, Nat.le_trans last.2 (Nat.le_of_lt next.2)⟩)
    else
      match Flag.ofChar? c with
      | none => refuse .flagUnknown span
      | some flag =>
        match found.find? (·.1 = flag) with
        | some (_, _, earlier) => .error ⟨.flagRepeated, span, some earlier⟩
        | none => do
          let next := cursor.advance (by simp [hrest])
          let (changes, last) ←
            readFlags next.1 ((flag, negation.isNone, span) :: found) negation false
          return (changes, ⟨last.1, Nat.le_trans last.2 (Nat.le_of_lt next.2)⟩)
termination_by cursor.size
decreasing_by all_goals exact next.2

private def isNameStart (c : Char) : Bool :=
  c == '_' || Text.Property.Current.alphabetic.contains c

private def isNameChar (c : Char) : Bool :=
  isNameStart c || c == '.' || c == '[' || c == ']' || Text.Property.Current.number.contains c

/-- The name of a group and its span, up to the closing angle bracket, which is passed. -/
private def readName (cursor : Cursor) : Except Fault (String × Span × Onward cursor) := do
  let (letters, stop) := cursor.takeWhile (· ≠ '>')
  checkName cursor letters true
  if stop.1.atEnd then refuse .groupNameUnclosed stop.1.emptySpan
  if letters = [] then refuse .groupNameEmpty cursor.emptySpan
  let next := stop.1.skip 1
  return (String.ofList letters, ⟨cursor.place, stop.1.place⟩,
    ⟨next.1, Nat.le_trans next.2 stop.2⟩)
where
  checkName (cursor : Cursor) (letters : List Char) (first : Bool) : Except Fault Unit :=
    match letters with
    | [] => .ok ()
    | c :: rest =>
      if if first then isNameStart c else isNameChar c then
        checkName (cursor.skip 1).1 rest false
      else refuse .groupNameCharacter cursor.characterSpan

/-!
Patterns.
-/

private def Part.ofAtom (atom : Atom) : Part Term := { value := .atom atom, span := atom.span }

/-- What has been read at one depth of groups: the alternatives that are complete, and the parts of
the one under way, which begins at `place`; both latest first. -/
private structure Level where
  start : Location
  choices : List (Part Term)
  place : Location
  parts : List (Part Term)

namespace Level

private def empty (place : Location) : Level := ⟨place, [], place, []⟩

private def add (level : Level) (part : Part Term) : Level :=
  { level with parts := part :: level.parts }

private def last (level : Level) (stop : Location) : Part Term :=
  .join .sequence .empty ⟨level.place, stop⟩ level.parts.reverse

private def term (level : Level) (stop : Location) : Part Term :=
  let last := level.last stop
  match level.choices.reverse with
  | [] => last
  | first :: others =>
    let span : Span := ⟨level.start, stop⟩
    let later := others ++ [last]
    { value := (later.map (·.value)).foldl .choice first.value
      span
      nest := some (.node span ((first :: later).filterMap (·.nest))) }

private def alternate (level : Level) (stop next : Location) : Level :=
  { level with choices := level.last stop :: level.choices, place := next, parts := [] }

end Level

/-- A group whose end is still to come: the span of its parenthesis, the flags that it sets, and
what surrounds it. -/
private structure OpenGroup where
  span : Span
  changes : FlagChanges
  outerExtended : Bool
  outer : Level

private structure Reading where
  extended : Bool
  names : List (String × Span)
  level : Level
  groups : List OpenGroup

namespace Reading

private def add (r : Reading) (part : Part Term) : Reading := { r with level := r.level.add part }

private def openGroup (r : Reading) (span : Span) (changes : FlagChanges) (content : Location) :
    Reading :=
  { r with
    extended := (changes.lookup .extended).getD r.extended
    level := .empty content
    groups := ⟨span, changes, r.extended, r.level⟩ :: r.groups }

private def closeGroup (r : Reading) (span : Span) : Except Fault Reading :=
  match r.groups with
  | [] => refuse .groupUnopened span
  | group :: groups =>
    let content := r.level.term span.start
    let part := content.within ⟨group.span.start, span.stop⟩ (.group group.changes)
    .ok { r with extended := group.outerExtended, level := group.outer.add part, groups }

/-- Repeats the latest part, if there is one that can be repeated. -/
private def repeatLast (r : Reading) (place : Span) :
    Except Fault (Nat → Option Nat → Location → Reading) :=
  match r.level.parts with
  | [] => refuse .repetitionMissing place
  | { value := .flags _, .. } :: _ => refuse .repetitionMissing place
  | part :: parts =>
    .ok fun least most stop =>
      let part := part.within ⟨part.span.start, stop⟩ (.repeated · least most)
      { r with level := { r.level with parts := part :: parts } }

private def finish (r : Reading) (stop : Location) : Except Fault (Part Term) :=
  match r.groups with
  | [] => .ok (r.level.term stop)
  | group :: _ => refuse .groupUnclosed group.span

end Reading

/-- A parenthesis with what follows it up to the content of the group, or up to the closing
parenthesis where it only sets flags. -/
private def readGroup (r : Reading) (cursor : Cursor) (h : cursor.rest ≠ []) :
    Except Fault (Reading × Beyond cursor) := do
  let paren := cursor.characterSpan
  let first := cursor.step r.extended h
  let lookAround := ["?=", "?!", "?<=", "?<!"].findSome? first.1.skipText?
  if let some stop := lookAround then
    refuse .lookAround ⟨cursor.place, stop.1.place⟩
  match first.1.skipText? "?P<" <|> first.1.skipText? "?<" with
  | some start =>
    let (name, span, next) ← readName start.1
    if let some earlier := r.names.lookup name then
      throw ⟨.groupNameRepeated, span, some earlier⟩
    let r := { r with names := (name, span) :: r.names }
    return (r.openGroup paren [] next.1.place, ⟨next.1, by
      have := first.2; have := start.2; have := next.2; omega⟩)
  | none =>
    match first.1.skipText? "?" with
    | none => return (r.openGroup paren [] first.1.place, first)
    | some start =>
      if start.1.atEnd then refuse .groupUnclosed paren
      let (changes, stop) ← readFlags start.1 [] none false
      let next := stop.1.skip 1
      let last : Beyond cursor := ⟨next.1, by
        have := first.2; have := start.2; have := stop.2; have := next.2; omega⟩
      if stop.1.startsWith ":" then return (r.openGroup paren changes last.1.place, last)
      else if changes = [] then refuse .repetitionMissing first.1.emptySpan
      else
        let extended := (changes.lookup .extended).getD r.extended
        let span : Span := ⟨paren.start, last.1.place⟩
        return ({ r with extended }.add { value := .flags changes, span }, last)

private def readPart (r : Reading) (cursor : Cursor) (h : cursor.rest ≠ []) :
    Except Fault (Reading × Beyond cursor) :=
  let next := cursor.advance h
  let atom := fun (atom : Atom) => Except.ok (r.add (.ofAtom atom), next)
  let repetition := fun (least : Nat) (most : Option Nat) => do
    let repeated ← r.repeatLast cursor.emptySpan
    let last := next.1.skip (if next.1.startsWith "?" then 1 else 0)
    return (repeated least most last.1.place,
      (⟨last.1, Nat.lt_of_le_of_lt last.2 next.2⟩ : Beyond cursor))
  match cursor.rest with
  | '(' :: _ => readGroup r cursor h
  | ')' :: _ => do return (← r.closeGroup cursor.characterSpan, next)
  | '|' :: _ => .ok ({ r with level := r.level.alternate cursor.place next.1.place }, next)
  | '[' :: _ => do
    let (set, last) ← readBrackets r.extended cursor h
    return (r.add set, last)
  | '?' :: _ => repetition 0 (some 1)
  | '*' :: _ => repetition 0 none
  | '+' :: _ => repetition 1 none
  | '{' :: _ => do
    let repeated ← r.repeatLast cursor.emptySpan
    let ((least, most), last) ← readCounts r.extended cursor h
    return (repeated least most last.1.place, last)
  | '\\' :: _ => do
    let (escaped, last) ← readEscape r.extended cursor h
    return (r.add (.ofAtom escaped), last)
  | '.' :: _ => atom (.anyCharacter cursor.characterSpan)
  | '^' :: _ => atom (.assertion .lineStart cursor.characterSpan)
  | '$' :: _ => atom (.assertion .lineStop cursor.characterSpan)
  | c :: _ => atom (.literal ⟨c, false, cursor.characterSpan⟩)
  | [] => atom (.anyCharacter cursor.characterSpan)

private def readParts (r : Reading) (cursor : Cursor) : Except Fault (Part Term) :=
  let start := cursor.skipIgnored r.extended
  if hstart : start.1.rest = [] then r.finish start.1.place
  else do
    let (r, next) ← readPart r start.1 hstart
    readParts r next.1
termination_by cursor.size
decreasing_by exact Nat.lt_of_lt_of_le next.2 start.2

/-- How deep the parts stand is looked at only once all of the text has been read. -/
def Term.parse (pattern : String) : Except Fault Term := do
  let cursor := Cursor.start pattern
  let part ← readParts ⟨false, [], .empty cursor.place, []⟩ cursor
  match part.nest.bind (·.beyond? nestLimit) with
  | some span => refuse .nestedTooDeep span
  | none => return part.value

end Colloquy.Pattern
