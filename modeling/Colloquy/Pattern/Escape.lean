import Colloquy.Cursor
import Colloquy.Pattern.Fault
import Colloquy.Pattern.Term
import Colloquy.Text.Blank
import Colloquy.Url.Percent

/-!
Single parts of patterns: characters and escape sequences.  In the extended form blanks and comments
are ignored, even within an escape sequence.
-/

namespace Colloquy

namespace Cursor

/-- In the extended form, passes blanks and comments. -/
def skipIgnored (cursor : Cursor) (extended : Bool) : Onward cursor :=
  if extended then
    let start := (cursor.takeWhile Text.isBlank).2
    match hrest : start.1.rest with
    | '#' :: _ =>
      let mark := start.1.advance (by simp [hrest])
      let comment := (mark.1.takeWhile (· ≠ '\n')).2
      let next := comment.1.skipIgnored extended
      ⟨next.1, Nat.le_trans next.2 (Nat.le_trans comment.2
        (Nat.le_trans (Nat.le_of_lt mark.2) start.2))⟩
    | _ => start
  else cursor.stay
termination_by cursor.size
decreasing_by
  exact Nat.lt_of_le_of_lt comment.2 (Nat.lt_of_lt_of_le mark.2 start.2)

/-- Passes one character and what is ignored after it. -/
def step (cursor : Cursor) (extended : Bool) (h : cursor.rest ≠ []) : Beyond cursor :=
  let next := cursor.advance h
  let last := next.1.skipIgnored extended
  ⟨last.1, Nat.lt_of_le_of_lt last.2 next.2⟩

/-- The character after the next one.  In the extended form blanks before it do not count, nor
does the sign of a comment. -/
def second? (cursor : Cursor) (extended : Bool) : Option Char :=
  let after := cursor.rest.drop 1
  if extended then
    match after.dropWhile Text.isBlank with
    | '#' :: comment => (comment.dropWhile Text.isBlank).head?
    | others => others.head?
  else after.head?

end Cursor

namespace Pattern

open Cursor (Beyond Onward)

def refuse {α : Type} (cause : Cause) (span : Span) : Except Fault α := .error { cause, span }

/-- Up to `count` hexadecimal digits, of which none may be missing. -/
private def readDigits (extended : Bool) (cursor : Cursor) :
    (count : Nat) → Except Fault (List Char × Onward cursor)
  | 0 => .ok ([], cursor.stay)
  | count + 1 =>
    match hrest : cursor.rest with
    | [] => refuse .escapeUnfinished cursor.emptySpan
    | c :: _ =>
      if (Url.hexValue? c).isSome then do
        let next := cursor.step extended (by simp [hrest])
        let (digits, last) ← readDigits extended next.1 count
        return (c :: digits, ⟨last.1, by have := next.2; have := last.2; omega⟩)
      else refuse .hexDigit cursor.characterSpan

private def readBraced (extended hexadecimal : Bool) (cursor : Cursor) :
    Except Fault (List Char × Onward cursor) :=
  match hrest : cursor.rest with
  | [] => .ok ([], cursor.stay)
  | c :: _ =>
    if c = '}' then .ok ([], cursor.stay)
    else if hexadecimal && (Url.hexValue? c).isNone then refuse .hexDigit cursor.characterSpan
    else do
      let next := cursor.step extended (by simp [hrest])
      let (found, last) ← readBraced extended hexadecimal next.1
      return (c :: found, ⟨last.1, by have := next.2; have := last.2; omega⟩)
termination_by cursor.size
decreasing_by exact next.2

private def characterOf (digits : List Char) (span : Span) : Except Fault Char :=
  let code := digits.foldl (fun n c => n * 16 + (Url.hexValue? c).getD 0) 0
  if code.isValidChar then .ok (Char.ofNat code) else refuse .hexInvalid span

/-- A character by its code, from the letter that tells the number of digits; `start` is the place
of the backslash. -/
private def readCode (extended : Bool) (start : Location) (cursor : Cursor)
    (h : cursor.rest ≠ []) (count : Nat) : Except Fault (Atom × Beyond cursor) :=
  let brace := cursor.step extended h
  match hbrace : brace.1.rest with
  | [] => refuse .escapeUnfinished brace.1.emptySpan
  | '{' :: _ => do
    let hbrace : brace.1.rest ≠ [] := by simp [hbrace]
    let begin := brace.1.characterSpan.stop
    let first := brace.1.step extended hbrace
    let (digits, stop) ← readBraced extended true first.1
    if hstop : stop.1.rest = [] then refuse .escapeUnfinished ⟨brace.1.place, stop.1.place⟩
    else
      let next := stop.1.step extended hstop
      if digits = [] then refuse .hexEmpty ⟨brace.1.place, next.1.place⟩
      else
        let c ← characterOf digits ⟨begin, stop.1.place⟩
        return (.literal ⟨c, false, ⟨start, next.1.place⟩⟩, ⟨next.1, by
          have := brace.2; have := first.2; have := stop.2; have := next.2; omega⟩)
  | _ => do
    let (digits, next) ← readDigits extended brace.1 count
    let c ← characterOf digits ⟨brace.1.place, next.1.place⟩
    return (.literal ⟨c, count = 2, ⟨start, next.1.place⟩⟩, ⟨next.1, by
      have := brace.2; have := next.2; omega⟩)

/-- The text before the first `mark` and the text after it. -/
private def splitAt? (mark : List Char) : List Char → Option (List Char × List Char)
  | [] => none
  | c :: rest =>
    if mark.isPrefixOf (c :: rest) then some ([], (c :: rest).drop mark.length)
    else (splitAt? mark rest).map fun (before, after) => (c :: before, after)

/-- The property that a text between braces stands for, and whether it is every value but the one
named that is meant. -/
private def readPropertyName (text : List Char) : PropertyName × Bool :=
  let valued := fun (name, value) =>
    PropertyName.valued (String.ofList name) (String.ofList value)
  match splitAt? ['!', '='] text, splitAt? [':'] text <|> splitAt? ['='] text with
  | some parts, _ => (valued parts, true)
  | none, some parts => (valued parts, false)
  | none, none => (.alone (String.ofList text), false)

private def readProperty (extended : Bool) (start : Location) (cursor : Cursor)
    (h : cursor.rest ≠ []) : Except Fault (Atom × Beyond cursor) :=
  let negated := cursor.startsWith "P"
  let name := cursor.step extended h
  match hname : name.1.rest with
  | [] => refuse .escapeUnfinished name.1.emptySpan
  | '{' :: _ => do
    let first := name.1.step extended (by simp [hname])
    let (text, stop) ← readBraced extended false first.1
    if hstop : stop.1.rest = [] then refuse .escapeUnfinished stop.1.emptySpan
    else
      let next := stop.1.advance hstop
      let (property, differs) := readPropertyName text
      return (.property property (negated != differs) ⟨start, next.1.place⟩, ⟨next.1, by
        have := name.2; have := first.2; have := stop.2; have := next.2; omega⟩)
  | c :: _ =>
    if c = '\\' then refuse .propertyLetter name.1.characterSpan
    else
      let next := name.1.step extended (by simp [hname])
      .ok (.property (.alone (String.singleton c)) negated ⟨start, next.1.place⟩,
        ⟨next.1, by have := name.2; have := next.2; omega⟩)

private def isBoundaryLetter (c : Char) : Bool := c.isAlpha || c == '-'

private def readBoundaryLetters (extended : Bool) (cursor : Cursor) :
    List Char × Onward cursor :=
  match hrest : cursor.rest with
  | [] => ([], cursor.stay)
  | c :: _ =>
    if isBoundaryLetter c then
      let next := cursor.step extended (by simp [hrest])
      let (letters, last) := readBoundaryLetters extended next.1
      (c :: letters, ⟨last.1, by have := next.2; have := last.2; omega⟩)
    else ([], cursor.stay)
termination_by cursor.size
decreasing_by exact next.2

private def boundaryOfName? (letters : List Char) : Option Assertion :=
  match String.ofList letters with
  | "start" => some .wordStart
  | "end" => some .wordStop
  | "start-half" => some .wordStartHalf
  | "end-half" => some .wordStopHalf
  | _ => none

/-- What may follow the letter of a word boundary: its kind between braces.  Other braces are left
for a repetition. -/
private def readBoundaryKind (extended : Bool) (start : Location) (cursor : Cursor) :
    Except Fault (Assertion × Onward cursor) :=
  match hbrace : cursor.rest with
  | '{' :: _ =>
    let first := cursor.step extended (by simp [hbrace])
    match first.1.rest with
    | [] => refuse .wordBoundaryUnfinished ⟨start, first.1.place⟩
    | c :: _ =>
      if isBoundaryLetter c then
        let (letters, stop) := readBoundaryLetters extended first.1
        if hstop : stop.1.startsWith "\x7d" then
          match boundaryOfName? letters with
          | none => refuse .wordBoundaryUnknown ⟨first.1.place, stop.1.place⟩
          | some kind =>
            let next := stop.1.skip 1
            .ok (kind, ⟨next.1, by
              have := first.2; have := stop.2; have := next.2; omega⟩)
        else refuse .wordBoundaryUnclosed ⟨cursor.place, stop.1.place⟩
      else .ok (.wordBoundary, cursor.stay)
  | _ => .ok (.wordBoundary, cursor.stay)

/-- Characters that have a meaning of their own somewhere in a pattern. -/
private def isMeta (c : Char) : Bool := c ∈ "\\.+*?()|[]\x7b\x7d^$#&-~".toList

/-- A backslash before such a character makes it stand for itself. -/
private def isEscapable (c : Char) : Bool :=
  isMeta c || (c.toNat < 0x80 && !c.isAlphanum && c ≠ '<' && c ≠ '>')

private def controlCharacter? : Char → Option Char
  | 'a' => some '\x07'
  | 'f' => some '\x0C'
  | 't' => some '\t'
  | 'n' => some '\n'
  | 'r' => some '\r'
  | 'v' => some '\x0B'
  | _ => none

private def shorthand? : Char → Option (Shorthand × Bool)
  | 'd' => some (.digit, false)
  | 'D' => some (.digit, true)
  | 's' => some (.space, false)
  | 'S' => some (.space, true)
  | 'w' => some (.word, false)
  | 'W' => some (.word, true)
  | _ => none

private def assertion? : Char → Option Assertion
  | 'A' => some .textStart
  | 'z' => some .textStop
  | 'B' => some .notWordBoundary
  | '<' => some .wordStart
  | '>' => some .wordStop
  | _ => none

def readEscape (extended : Bool) (cursor : Cursor) (h : cursor.rest ≠ []) :
    Except Fault (Atom × Beyond cursor) :=
  let start := cursor.place
  let mark := cursor.advance h
  match hrest : mark.1.rest with
  | [] => refuse .escapeUnfinished ⟨start, mark.1.place⟩
  | c :: _ =>
    have hrest : mark.1.rest ≠ [] := by simp [hrest]
    let after := mark.1.advance hrest
    let span : Span := ⟨start, after.1.place⟩
    let beyond : {next : Cursor // next.size < mark.1.size} → Beyond cursor :=
      fun next => ⟨next.1, Nat.lt_trans next.2 mark.2⟩
    let single := fun (atom : Atom) => Except.ok (atom, beyond after)
    let longer := fun (read : Except Fault (Atom × Beyond mark.1)) =>
      read.map fun (atom, next) => (atom, beyond next)
    if c.isDigit then refuse .backreference span
    else if c = 'x' then longer (readCode extended start mark.1 hrest 2)
    else if c = 'u' then longer (readCode extended start mark.1 hrest 4)
    else if c = 'U' then longer (readCode extended start mark.1 hrest 8)
    else if c = 'p' ∨ c = 'P' then longer (readProperty extended start mark.1 hrest)
    else if c = 'b' then do
      let (kind, next) ← readBoundaryKind extended start after.1
      return (.assertion kind ⟨start, next.1.place⟩,
        beyond ⟨next.1, Nat.lt_of_le_of_lt next.2 after.2⟩)
    else if isEscapable c then single (.literal ⟨c, false, span⟩)
    else match controlCharacter? c, shorthand? c, assertion? c with
      | some control, _, _ => single (.literal ⟨control, false, span⟩)
      | _, some (kind, negated), _ => single (.shorthand kind negated span)
      | _, _, some assertion => single (.assertion assertion span)
      | _, _, _ => refuse .escapeUnknown span

end Pattern

end Colloquy
