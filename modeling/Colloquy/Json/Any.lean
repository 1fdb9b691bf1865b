import Colloquy.Json.Reader

/-!
Reading values of any kind.  Lists and objects nest in at most 127 levels.
-/

namespace Colloquy.Json

def ofNumber : Number → Json
  | .natural n => .natural n
  | .negative n => .otherNumber s!"-{n}"
  | .real x => .otherNumber (realText x)

/-- How deep values nest, counted with the level that is refused. -/
def depthLimit : Nat := 128

mutual

/-- A value of any kind; `depth` tells how many levels of lists and objects it may have, counted
with the one that is refused. -/
def readValue (depth : Nat) (input : List Char) : Except Fault (Json × Less input) :=
  let start := skipBlanks input
  match hrest : start.1 with
  | [] => .error (.before [] .endInValue)
  | c :: rest =>
    have hlt : rest.length < input.length :=
      Nat.lt_of_lt_of_le (by rw [hrest]; exact Nat.lt_succ_self _) start.2
    let beyond : Left rest → Less input := fun left => ⟨left.1, Nat.lt_of_le_of_lt left.2 hlt⟩
    let word := fun (letters : String) (value : Json) =>
      (readWord letters.toList rest).map fun left => (value, beyond left)
    if c = 'n' then word "ull" .null
    else if c = 't' then word "rue" (.boolean true)
    else if c = 'f' then word "alse" (.boolean false)
    else if c = '-' then
      (readNumber false rest).map fun (number, left) => (ofNumber number, beyond left)
    else if c = '"' then
      (readCharacters rest).map fun (cs, left) => (.text (String.ofList cs), beyond left)
    else if c.isDigit then
      (readNumber true (c :: rest)).bind fun (number, left) =>
        if h : left.1.length < input.length then .ok (ofNumber number, ⟨left.1, h⟩)
        else .error (.before left.1 .invalidNumber)
    else if c = '[' then
      if depth ≤ 1 then .error (.past (c :: rest) .tooDeep)
      else (readItems (depth - 1) rest true).map fun (items, left) =>
        (.list items, beyond left)
    else if c = '{' then
      if depth ≤ 1 then .error (.past (c :: rest) .tooDeep)
      else (readProperties (depth - 1) rest true).map fun (members, left) =>
        (.object members, beyond left)
    else .error (.past (c :: rest) .expectedValue)
termination_by (input.length, 0)
decreasing_by all_goals exact Prod.Lex.left _ _ hlt

def readItems (depth : Nat) (input : List Char) (first : Bool) :
    Except Fault (List Json × Left input) :=
  match nextItem input first with
  | .ok (.stop rest) => .ok ([], ⟨rest.1, Nat.le_of_lt rest.2⟩)
  | .ok (.item start) =>
    match readValue depth start.1 with
    | .ok (item, next) => (readItems depth next.1 false).map fun (items, last) =>
      (item :: items, ⟨last.1, Nat.le_trans last.2
        (Nat.le_trans (Nat.le_of_lt next.2) start.2)⟩)
    | .error fault => .error fault
  | .error fault => .error fault
termination_by (input.length, 1)
decreasing_by
  · rcases Nat.lt_or_eq_of_le start.2 with h | h
    · exact Prod.Lex.left _ _ h
    · rw [h]; exact Prod.Lex.right _ (by decide)
  · exact Prod.Lex.left _ _ (Nat.lt_of_lt_of_le next.2 start.2)

def readProperties (depth : Nat) (input : List Char) (first : Bool) :
    Except Fault (List (String × Json) × Left input) :=
  match nextMember input first with
  | .ok (.stop rest) => .ok ([], ⟨rest.1, Nat.le_of_lt rest.2⟩)
  | .ok (.key start) =>
    match readKey start.1 with
    | .ok (key, afterKey) =>
      match expectColon afterKey.1 with
      | .ok colon =>
        have hcolon : colon.1.length < input.length :=
          Nat.lt_of_le_of_lt colon.2 (Nat.lt_of_le_of_lt afterKey.2 start.2)
        match readValue depth colon.1 with
        | .ok (value, next) => (readProperties depth next.1 false).map fun (members, last) =>
          ((key, value) :: members, ⟨last.1, Nat.le_trans last.2
            (Nat.le_of_lt (Nat.lt_trans next.2 hcolon))⟩)
        | .error fault => .error fault
      | .error fault => .error fault
    | .error fault => .error fault
  | .error fault => .error fault
termination_by (input.length, 1)
decreasing_by
  · exact Prod.Lex.left _ _ hcolon
  · exact Prod.Lex.left _ _ (Nat.lt_trans next.2 hcolon)

end

/-- A value of any kind, at a place where so many levels are left. -/
def readAny (depth : Nat) : Reader Json := fun input =>
  (readValue depth input).map fun (value, last) => (value, ⟨last.1, Nat.le_of_lt last.2⟩)

end Colloquy.Json
