import Colloquy.Cursor
import Colloquy.Markup.Fault
import Colloquy.Text.Utf8

/-!
The characters of markup, and the reading steps that all its parts share.
-/

namespace Colloquy

namespace Markup

def isSpace (c : Char) : Bool := c == ' ' || c == '\t' || c == '\n' || c == '\r'

def isAllowed (c : Char) : Bool :=
  if c.toNat < 0x20 then isSpace c else c.toNat != 0xFFFE && c.toNat != 0xFFFF

private def nameStartRanges : List (Nat × Nat) :=
  [(0xC0, 0xD6), (0xD8, 0xF6), (0xF8, 0x2FF), (0x370, 0x37D), (0x37F, 0x1FFF), (0x200C, 0x200D),
   (0x2070, 0x218F), (0x2C00, 0x2FEF), (0x3001, 0xD7FF), (0xF900, 0xFDCF), (0xFDF0, 0xFFFD),
   (0x10000, 0xEFFFF)]

private def nameExtraRanges : List (Nat × Nat) :=
  [(0xB7, 0xB7), (0x300, 0x36F), (0x203F, 0x2040)]

private def inRanges (ranges : List (Nat × Nat)) (c : Char) : Bool :=
  ranges.any fun r => r.1 ≤ c.toNat && c.toNat ≤ r.2

def isNameStart (c : Char) : Bool :=
  if c.toNat < 0x80 then c.isAlpha || c == ':' || c == '_' else inRanges nameStartRanges c

def isNameChar (c : Char) : Bool :=
  if c.toNat < 0x80 then c.isAlphanum || c == ':' || c == '_' || c == '-' || c == '.'
  else inRanges nameStartRanges c || inRanges nameExtraRanges c

/-- The first byte of a character, shown as the character with that code. -/
def leadByte (c : Char) : Char :=
  match String.utf8EncodeChar c with
  | b :: _ => Char.ofNat b.toNat
  | [] => c

end Markup

namespace Cursor

open Markup

def skipSpaces (cursor : Cursor) : Onward cursor := (cursor.takeWhile isSpace).2

@[simp] theorem rest_skipSpaces (cursor : Cursor) :
    cursor.skipSpaces.1.rest = cursor.rest.dropWhile isSpace :=
  rest_takeWhile isSpace cursor

private def readUntilFrom (stops : List Char → Bool) (n : Nat) :
    (rest : List Char) → Location → List Char → rest.length ≤ n →
      Except Fault (List Char × Within n)
  | [], place, passed, h => .ok (passed.reverse, ⟨⟨[], place⟩, h⟩)
  | c :: rest, place, passed, h =>
    if !isAllowed c then .error (.invalidCharacter c place)
    else if stops (c :: rest) then .ok (passed.reverse, ⟨⟨c :: rest, place⟩, h⟩)
    else
      readUntilFrom stops n rest (place.after c) (c :: passed) (Nat.le_of_succ_le h)

/-- The characters up to where `stops` holds of the rest of the text, or all; each must be
allowed. -/
def readUntil (cursor : Cursor) (stops : List Char → Bool) :
    Except Fault (List Char × Onward cursor) :=
  readUntilFrom stops cursor.size cursor.rest cursor.place [] (size_le cursor)

private theorem readUntilFrom_cons {stops : List Char → Bool} {n : Nat} {c : Char}
    {rest : List Char} {place : Location} {passed : List Char} {h : (c :: rest).length ≤ n} :
    readUntilFrom stops n (c :: rest) place passed h =
      if !isAllowed c then .error (.invalidCharacter c place)
      else if stops (c :: rest) then .ok (passed.reverse, ⟨⟨c :: rest, place⟩, h⟩)
      else
        readUntilFrom stops n rest (place.after c) (c :: passed) (Nat.le_of_succ_le h) :=
  rfl

private theorem readUntilFrom_eq_ok {stops : List Char → Bool} {n : Nat} {rest : List Char}
    {place : Location} {passed : List Char} {h : rest.length ≤ n} {text : List Char}
    {stop : Within n} (hread : readUntilFrom stops n rest place passed h = .ok (text, stop)) :
    ∃ read, text = passed.reverse ++ read ∧ rest = read ++ stop.1.rest ∧
      (∀ k < read.length, stops (rest.drop k) = false) ∧
      (stop.1.rest = [] ∨ stops stop.1.rest = true) := by
  induction rest generalizing place passed with
  | nil =>
    cases hread
    exact ⟨[], by simp, rfl, by simp, .inl rfl⟩
  | cons c rest ih =>
    rw [readUntilFrom_cons] at hread
    split at hread
    · cases hread
    · split at hread
      · next hstops =>
        cases hread
        exact ⟨[], by simp, rfl, by simp, .inr hstops⟩
      · next hstops =>
        obtain ⟨read, rfl, hrest, hgoes, hend⟩ := ih hread
        refine ⟨c :: read, by simp, by rw [hrest]; rfl, fun k hk => ?_, hend⟩
        cases k with
        | zero => simpa using hstops
        | succ k => exact hgoes k (Nat.lt_of_succ_lt_succ hk)

/-- What is read ends at the first place at which `stops` holds, or at the end of the text. -/
theorem readUntil_eq_ok {cursor : Cursor} {stops : List Char → Bool} {text : List Char}
    {stop : Onward cursor} (h : cursor.readUntil stops = .ok (text, stop)) :
    cursor.rest = text ++ stop.1.rest ∧
      (∀ k < text.length, stops (cursor.rest.drop k) = false) ∧
      (stop.1.rest = [] ∨ stops stop.1.rest = true) := by
  obtain ⟨read, rfl, hrest⟩ := readUntilFrom_eq_ok h
  exact hrest

def expect (cursor : Cursor) (expected : Char) : Except Fault (Beyond cursor) :=
  match cursor with
  | ⟨[], _⟩ => .error .endOfText
  | ⟨c :: rest, place⟩ =>
    if c = expected then .ok (past c rest place)
    else .error (.expectedCharacter expected (leadByte c) place)

theorem expect_eq_ok {cursor : Cursor} {expected : Char} {next : Beyond cursor}
    (h : cursor.expect expected = .ok next) : cursor.rest = expected :: next.1.rest := by
  obtain ⟨rest, place⟩ := cursor
  cases rest with
  | nil => cases h
  | cons c rest =>
    rw [expect] at h
    split at h
    · next hc =>
      cases h
      rw [← hc]
      rfl
    · cases h

def expectText (cursor : Cursor) (text : String) : Except Fault (Onward cursor) :=
  if cursor.startsWith text then .ok (cursor.skip text.length)
  else .error (.expectedText text cursor.place)

theorem expectText_eq_ok {cursor : Cursor} {text : String} {next : Onward cursor}
    (h : cursor.expectText text = .ok next) : cursor.rest = text.toList ++ next.1.rest := by
  rw [expectText] at h
  split at h
  · next hstarts =>
    cases h
    obtain ⟨back, hback⟩ := List.isPrefixOf_iff_prefix.1 hstarts
    rw [rest_skip, ← hback, ← String.length_toList, List.drop_left]
  · cases h

def readQuote (cursor : Cursor) : Except Fault (Char × Beyond cursor) :=
  match cursor with
  | ⟨[], _⟩ => .error .endOfText
  | ⟨c :: rest, place⟩ =>
    if c = '\'' ∨ c = '"' then .ok (c, past c rest place)
    else .error (.expectedKind "a quote" (leadByte c) place)

theorem readQuote_eq_ok {cursor : Cursor} {quote : Char} {next : Beyond cursor}
    (h : cursor.readQuote = .ok (quote, next)) :
    (quote = '\'' ∨ quote = '"') ∧ cursor.rest = quote :: next.1.rest := by
  obtain ⟨rest, place⟩ := cursor
  cases rest with
  | nil => cases h
  | cons c rest =>
    rw [readQuote] at h
    split at h
    · next hc =>
      cases h
      exact ⟨hc, rfl⟩
    · cases h

def skipEquals (cursor : Cursor) : Except Fault (Beyond cursor) := do
  let before := cursor.skipSpaces
  let sign ← before.1.expect '='
  let after := sign.1.skipSpaces
  return ⟨after.1, by have := before.2; have := sign.2; have := after.2; omega⟩

end Cursor

end Colloquy
