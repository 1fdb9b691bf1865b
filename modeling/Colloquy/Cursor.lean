import Colloquy.Span

/-!
Reading a text from left to right.  A reading step hands back a cursor that is bound by type to be
no further from the end of the text, so loops over steps end.
-/

namespace Colloquy

structure Cursor where
  rest : List Char
  place : Location

namespace Cursor

def start (source : String) : Cursor := ⟨source.toList, .first⟩

abbrev size (cursor : Cursor) : Nat := cursor.rest.length

abbrev atEnd (cursor : Cursor) : Bool := cursor.rest.isEmpty

abbrev Within (n : Nat) := { cursor : Cursor // cursor.size ≤ n }

/-- Cursors that have passed at least one character of `cursor`. -/
abbrev Beyond (cursor : Cursor) := { next : Cursor // next.size < cursor.size }

abbrev Onward (cursor : Cursor) := Within cursor.size

def startsWith (cursor : Cursor) (text : String) : Bool := text.toList.isPrefixOf cursor.rest

theorem size_le (cursor : Cursor) : cursor.rest.length ≤ cursor.size := Nat.le_refl _

def stay (cursor : Cursor) : Onward cursor := ⟨cursor, size_le cursor⟩

def past (c : Char) (rest : List Char) (place : Location) : Beyond ⟨c :: rest, place⟩ :=
  ⟨⟨rest, place.after c⟩, Nat.lt_succ_self _⟩

private def passWhile (p : Char → Bool) (n : Nat) :
    (rest : List Char) → Location → List Char → rest.length ≤ n → List Char × Within n
  | [], place, passed, h => (passed.reverse, ⟨⟨[], place⟩, h⟩)
  | c :: rest, place, passed, h =>
    if p c then
      passWhile p n rest (place.after c) (c :: passed) (Nat.le_of_succ_le h)
    else (passed.reverse, ⟨⟨c :: rest, place⟩, h⟩)

def takeWhile (p : Char → Bool) (cursor : Cursor) : List Char × Onward cursor :=
  passWhile p cursor.size cursor.rest cursor.place [] (size_le cursor)

private theorem passWhile_eq (p : Char → Bool) (n : Nat) (rest : List Char) (place : Location)
    (passed : List Char) (h : rest.length ≤ n) :
    (passWhile p n rest place passed h).1 = passed.reverse ++ rest.takeWhile p ∧
      (passWhile p n rest place passed h).2.1.rest = rest.dropWhile p := by
  fun_induction passWhile with
  | case1 => simp
  | case2 c rest place passed h hc ih => simp [ih, hc]
  | case3 c rest place passed h hc => simp [hc]

@[simp] theorem fst_takeWhile (p : Char → Bool) (cursor : Cursor) :
    (cursor.takeWhile p).1 = cursor.rest.takeWhile p := by
  rw [takeWhile, (passWhile_eq ..).1, List.reverse_nil, List.nil_append]

@[simp] theorem rest_takeWhile (p : Char → Bool) (cursor : Cursor) :
    (cursor.takeWhile p).2.1.rest = cursor.rest.dropWhile p := by
  rw [takeWhile, (passWhile_eq ..).2]

/-- Passes as many characters as `count` says, or all. -/
def skip (cursor : Cursor) : Nat → Onward cursor
  | 0 => cursor.stay
  | count + 1 =>
    match cursor with
    | ⟨[], place⟩ => ⟨⟨[], place⟩, Nat.le_refl _⟩
    | ⟨c :: rest, place⟩ =>
      let next := skip ⟨rest, place.after c⟩ count
      ⟨next.1, by have := next.2; simp [size] at *; omega⟩

@[simp] theorem rest_skip (cursor : Cursor) (count : Nat) :
    (cursor.skip count).1.rest = cursor.rest.drop count := by
  induction count generalizing cursor with
  | zero => rfl
  | succ count ih =>
    obtain ⟨rest, place⟩ := cursor
    cases rest with
    | nil => rfl
    | cons c rest => exact ih ⟨rest, place.after c⟩

def advance (cursor : Cursor) (h : cursor.rest ≠ []) : Beyond cursor :=
  match cursor, h with
  | ⟨c :: rest, place⟩, _ => past c rest place

@[simp] theorem rest_advance (cursor : Cursor) (h : cursor.rest ≠ []) :
    (cursor.advance h).1.rest = cursor.rest.tail := by
  obtain ⟨rest, place⟩ := cursor
  cases rest with
  | nil => exact absurd rfl h
  | cons c rest => rfl

def skipText? (cursor : Cursor) (text : String) : Option (Onward cursor) :=
  if cursor.startsWith text then some (cursor.skip text.length) else none

/-- The span of the next character, which is empty at the end. -/
def characterSpan (cursor : Cursor) : Span :=
  ⟨cursor.place, match cursor.rest with
    | c :: _ => cursor.place.after c
    | [] => cursor.place⟩

def emptySpan (cursor : Cursor) : Span := ⟨cursor.place, cursor.place⟩

end Cursor

end Colloquy
