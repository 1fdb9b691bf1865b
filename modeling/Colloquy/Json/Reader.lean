import Colloquy.Dict
import Colloquy.Json.Value
import Colloquy.Text.Visible

/-!
Reading JSON as values of a given kind.  A value of another kind is refused by name, and members
that no record knows are passed over.
-/

namespace Colloquy.Json

/-- Reads a value at the front of its input. -/
abbrev Reader (α : Type) := (input : List Char) → Except Fault (α × Left input)

private def numberName : Number → String
  | .natural n => s!"integer `{n}`"
  | .negative n => s!"integer `-{n}`"
  | .real x => s!"floating point `{realText x}`"

/-- Refuses the value at the front, which is not of the kind `expected`.  Small values are read
before they are refused. -/
def refuseType {α : Type} (expected : String) (input : List Char) : Except Fault α :=
  let wrong := fun (found : String) (rest : List Char) =>
    Except.error (Fault.before rest (.wrongType found expected))
  match input with
  | 'n' :: rest => do wrong "null" (← readWord "ull".toList rest).1
  | 't' :: rest => do wrong "boolean `true`" (← readWord "rue".toList rest).1
  | 'f' :: rest => do wrong "boolean `false`" (← readWord "alse".toList rest).1
  | '-' :: rest => do
    let (number, left) ← readNumber false rest
    wrong (numberName number) left.1
  | '"' :: rest => do
    let (cs, left) ← readCharacters rest
    wrong ("string " ++ Text.visibleQuoted (String.ofList cs)) left.1
  | '[' :: rest => wrong "sequence" ('[' :: rest)
  | '{' :: rest => wrong "map" ('{' :: rest)
  | _ =>
    if startsWithDigit input then do
      let (number, left) ← readNumber true input
      wrong (numberName number) left.1
    else .error (.past input .expectedValue)

/-- Skips blanks before a value, of which there must be one. -/
def toValue (input : List Char) : Except Fault (Left input) :=
  let start := skipBlanks input
  if start.1.isEmpty then .error (.before [] .endInValue) else .ok start

def readText : Reader String := fun input => do
  let start ← toValue input
  match hrest : start.1 with
  | '"' :: rest =>
    let (cs, last) ← readCharacters rest
    return (String.ofList cs, ⟨last.1, Nat.le_trans (Nat.le_succ_of_le last.2)
      (Nat.le_trans (Nat.le_of_eq (by rw [hrest, List.length_cons])) start.2)⟩)
  | _ => refuseType "a string" start.1

/-- A natural number below 2^64. -/
def readNatural : Reader Nat := fun input => do
  let start ← toValue input
  if startsWithDigit start.1 then
    let (number, last) ← readNumber true start.1
    match number with
    | .natural n => return (n, start.andThen last)
    | _ => throw (.before last.1 (.wrongType (numberName number) "usize"))
  else refuseType "usize" start.1

/-!
Passing over values.
-/

def expectColon (input : List Char) : Except Fault (Left input) :=
  let start := skipBlanks input
  match hrest : start.1 with
  | [] => .error (.before [] .endInObject)
  | c :: rest =>
    if c = ':' then
      .ok ⟨rest, Nat.le_trans (by rw [hrest]; exact Nat.le_succ _) start.2⟩
    else .error (.past (c :: rest) .expectedColon)

private def skipKey (input : List Char) : Except Fault (Less input) :=
  match input with
  | [] => .error (.before [] .endInObject)
  | c :: rest =>
    if c = '"' then do
      let afterKey ← skipCharacters rest
      let last ← expectColon afterKey.1
      return ⟨last.1, Nat.lt_succ_of_le (Nat.le_trans last.2 afterKey.2)⟩
    else .error (.past (c :: rest) .keyNotText)

mutual

def skipValue (input : List Char) : Except Fault (Less input) :=
  let start := skipBlanks input
  match hrest : start.1 with
  | [] => .error (.before [] .endInValue)
  | c :: rest =>
    have hlt : rest.length < input.length :=
      Nat.lt_of_lt_of_le (by rw [hrest]; exact Nat.lt_succ_self _) start.2
    let beyond : Left rest → Less input := fun left => ⟨left.1, Nat.lt_of_le_of_lt left.2 hlt⟩
    if c = 'n' then (readWord "ull".toList rest).map beyond
    else if c = 't' then (readWord "rue".toList rest).map beyond
    else if c = 'f' then (readWord "alse".toList rest).map beyond
    else if c = '-' then (skipNegative rest).map beyond
    else if c = '"' then (skipCharacters rest).map beyond
    else if c = '[' then (skipItems rest true).map beyond
    else if c = '{' then (skipMembers rest true).map beyond
    else if c.isDigit then (skipNumber c rest).map beyond
    else .error (.past (c :: rest) .expectedValue)
termination_by (input.length, 0)
decreasing_by all_goals exact Prod.Lex.left _ _ hlt

/-- Passes over the items of a list and its closing bracket. -/
def skipItems (input : List Char) (first : Bool) : Except Fault (Left input) :=
  let start := skipBlanks input
  match hrest : start.1 with
  | [] => .error (.before [] .endInList)
  | c :: rest =>
    have hlt : rest.length < input.length :=
      Nat.lt_of_lt_of_le (by rw [hrest]; exact Nat.lt_succ_self _) start.2
    if c = ']' then .ok ⟨rest, Nat.le_of_lt hlt⟩
    else if first then
      match skipValue input with
      | .ok next => (skipItems next.1 false).map fun last =>
        ⟨last.1, Nat.le_trans last.2 (Nat.le_of_lt next.2)⟩
      | .error fault => .error fault
    else if c = ',' then
      match skipValue rest with
      | .ok next => (skipItems next.1 false).map fun last =>
        ⟨last.1, Nat.le_trans last.2 (Nat.le_of_lt (Nat.lt_trans next.2 hlt))⟩
      | .error fault => .error fault
    else .error (.past (c :: rest) .expectedListEnd)
termination_by (input.length, 1)
decreasing_by
  · exact Prod.Lex.right _ (by decide)
  · exact Prod.Lex.left _ _ next.2
  · exact Prod.Lex.left _ _ hlt
  · exact Prod.Lex.left _ _ (Nat.lt_trans next.2 hlt)

/-- Passes over the members of an object and its closing brace. -/
def skipMembers (input : List Char) (first : Bool) : Except Fault (Left input) :=
  let start := skipBlanks input
  match hrest : start.1 with
  | [] => .error (.before [] .endInObject)
  | c :: rest =>
    have hlt : rest.length < input.length :=
      Nat.lt_of_lt_of_le (by rw [hrest]; exact Nat.lt_succ_self _) start.2
    if c = '}' then .ok ⟨rest, Nat.le_of_lt hlt⟩
    else if !first && c ≠ ',' then .error (.past (c :: rest) .expectedObjectEnd)
    else
      let key : Left input :=
        if first then start
        else ⟨(skipBlanks rest).1, Nat.le_trans (skipBlanks rest).2 (Nat.le_of_lt hlt)⟩
      match skipKey key.1 with
      | .ok value =>
        match skipValue value.1 with
        | .ok next => (skipMembers next.1 false).map fun last =>
          ⟨last.1, Nat.le_trans last.2 (Nat.le_of_lt
            (Nat.lt_trans next.2 (Nat.lt_of_lt_of_le value.2 key.2)))⟩
        | .error fault => .error fault
      | .error fault => .error fault
termination_by (input.length, 1)
decreasing_by
  · exact Prod.Lex.left _ _ (Nat.lt_of_lt_of_le value.2 key.2)
  · exact Prod.Lex.left _ _ (Nat.lt_trans next.2 (Nat.lt_of_lt_of_le value.2 key.2))

end

/-!
Objects and lists.
-/

/-- What stands before an item of a list, or before its end. -/
inductive ItemStart (input : List Char) where
  | item (rest : Left input)
  | stop (rest : Less input)

/-- Moves to the next item, or past the closing bracket. -/
def nextItem (input : List Char) (first : Bool) : Except Fault (ItemStart input) :=
  let start := skipBlanks input
  match hrest : start.1 with
  | [] => .error (.before [] .endInList)
  | c :: rest =>
    have hlt : rest.length < input.length :=
      Nat.lt_of_lt_of_le (by rw [hrest]; exact Nat.lt_succ_self _) start.2
    if c = ']' then .ok (.stop ⟨rest, hlt⟩)
    else if first then .ok (.item start)
    else if c = ',' then
      let item := skipBlanks rest
      if item.1.isEmpty then .error (.before [] .endInValue)
      else if item.1.head? = some ']' then .error (.past item.1 .trailingComma)
      else .ok (.item ⟨item.1, Nat.le_trans item.2 (Nat.le_of_lt hlt)⟩)
    else .error (.past (c :: rest) .expectedListEnd)

/-- What stands before a member of an object, or before its end. -/
inductive MemberStart (input : List Char) where
  | key (rest : Less input)
  | stop (rest : Less input)

/-- Moves to the next key, past its opening quote, or past the closing brace. -/
def nextMember (input : List Char) (first : Bool) : Except Fault (MemberStart input) :=
  let start := skipBlanks input
  match hrest : start.1 with
  | [] => .error (.before [] .endInObject)
  | c :: rest =>
    have hlt : rest.length < input.length :=
      Nat.lt_of_lt_of_le (by rw [hrest]; exact Nat.lt_succ_self _) start.2
    if c = '}' then .ok (.stop ⟨rest, hlt⟩)
    else if first then
      if c = '"' then .ok (.key ⟨rest, hlt⟩) else .error (.past (c :: rest) .keyNotText)
    else if c = ',' then
      let key := skipBlanks rest
      match hkey : key.1 with
      | [] => .error (.before [] .endInValue)
      | d :: more =>
        if d = '"' then
          .ok (.key ⟨more, Nat.lt_trans (Nat.lt_of_lt_of_le
            (by rw [hkey]; exact Nat.lt_succ_self _) key.2) hlt⟩)
        else .error (.past (d :: more) (if d = '}' then .trailingComma else .keyNotText))
    else .error (.past (c :: rest) .expectedObjectEnd)

/-- The key of a member, after its opening quote, with its colon. -/
def readKey (input : List Char) : Except Fault (String × Left input) := do
  let (cs, afterKey) ← readCharacters input
  return (String.ofList cs, afterKey)

def readEntries {α : Type} (value : Reader α) (input : List Char) (first : Bool)
    (entries : Dict α) : Except Fault (Dict α × Left input) := do
  match ← nextMember input first with
  | .stop rest => return (entries, ⟨rest.1, Nat.le_of_lt rest.2⟩)
  | .key start =>
    let (key, afterKey) ← readKey start.1
    let colon ← expectColon afterKey.1
    let (v, next) ← value colon.1
    let (entries, last) ← readEntries value next.1 false (entries.insert key v)
    return (entries, ⟨last.1, by
      have := start.2; have := afterKey.2; have := colon.2; have := next.2; have := last.2
      omega⟩)
termination_by input.length
decreasing_by
  have := start.2; have := afterKey.2; have := colon.2; have := next.2; omega

/-- A dictionary, written as an object.  The last of several members with one key counts. -/
def readDict {α : Type} (value : Reader α) : Reader (Dict α) := fun input => do
  let start ← toValue input
  match hrest : start.1 with
  | '{' :: rest =>
    let (entries, last) ← readEntries value rest true ∅
    return (entries, ⟨last.1, Nat.le_trans last.2
      (Nat.le_trans (by rw [hrest]; exact Nat.le_succ _) start.2)⟩)
  | _ => refuseType "a map" start.1

structure Fields (α β : Type) where
  first : String × Reader α
  second : String × Reader β

/-- The place at which a record as a whole is refused: past the end of its object, if that comes
next. -/
private def recordEnd (close : Char) (input : List Char) : List Char :=
  match (skipBlanks input).1 with
  | c :: rest => if c = close then rest else c :: rest
  | [] => []

def readMembers {α β : Type} (fields : Fields α β) (input : List Char) (first : Bool)
    (found : Option α × Option β) : Except Fault ((Option α × Option β) × Left input) := do
  match ← nextMember input first with
  | .stop rest => return (found, ⟨rest.1, Nat.le_of_lt rest.2⟩)
  | .key start =>
    let (key, afterKey) ← readKey start.1
    let repeated := key = fields.first.1 ∧ found.1.isSome ∨ key = fields.second.1 ∧ found.2.isSome
    if repeated then
      throw (.before (recordEnd '}' afterKey.1) (.repeatedField key))
    let colon ← expectColon afterKey.1
    let (found, next) ← show Except Fault ((Option α × Option β) × Left colon.1) from
      if key = fields.first.1 then
        (fields.first.2 colon.1).map fun (v, next) => ((some v, found.2), next)
      else if key = fields.second.1 then
        (fields.second.2 colon.1).map fun (v, next) => ((found.1, some v), next)
      else
        (skipValue colon.1).map fun next => (found, ⟨next.1, Nat.le_of_lt next.2⟩)
    let (found, last) ← readMembers fields next.1 false found
    return (found, ⟨last.1, by
      have := start.2; have := afterKey.2; have := colon.2; have := next.2; have := last.2
      omega⟩)
termination_by input.length
decreasing_by
  have := start.2; have := afterKey.2; have := colon.2; have := next.2; omega

/-- An item of a record that is written as a list; `index` tells how many come before it. -/
private def readItem {α : Type} (name : String) (index : Nat) (value : Reader α)
    (input : List Char) : Except Fault (α × Left input) := do
  let start := skipBlanks input
  match hrest : start.1 with
  | [] => throw (.before [] .endInList)
  | c :: rest =>
    have hle : rest.length ≤ input.length :=
      Nat.le_trans (by rw [hrest]; exact Nat.le_succ _) start.2
    if c = ']' then throw (.before rest (.wrongLength index s!"{name} with 2 elements"))
    else if index = 0 then value input
    else if c ≠ ',' then throw (.past (c :: rest) .expectedListEnd)
    else
      let item := skipBlanks rest
      if item.1.isEmpty then throw (.before [] .endInValue)
      if item.1.head? = some ']' then throw (.past item.1 .trailingComma)
      let (v, last) ← value item.1
      return (v, ⟨last.1, Nat.le_trans last.2 (Nat.le_trans item.2 hle)⟩)

/-- The closing bracket of a record that is written as a list. -/
private def closeList (input : List Char) : Except Fault (Left input) :=
  let start := skipBlanks input
  match hrest : start.1 with
  | [] => .error (.before [] .endInList)
  | c :: rest =>
    if c = ']' then .ok ⟨rest, Nat.le_trans (by rw [hrest]; exact Nat.le_succ _) start.2⟩
    else if c = ',' then
      let next := (skipBlanks rest).1
      .error (.past next (if next.head? = some ']' then .trailingComma else .trailingCharacters))
    else .error (.past (c :: rest) .trailingCharacters)

/-- A record of two fields, written as an object or as a list of the values in order.  `name` tells
what it is called in messages. -/
def readRecord {α β : Type} (name : String) (fields : Fields α β) : Reader (α × β) :=
  fun input => do
    let start ← toValue input
    match hrest : start.1 with
    | '{' :: rest =>
      let (found, last) ← readMembers fields rest true (none, none)
      match found with
      | (some a, some b) =>
        return ((a, b), ⟨last.1, Nat.le_trans last.2
          (Nat.le_trans (by rw [hrest]; exact Nat.le_succ _) start.2)⟩)
      | (none, _) => throw (.before last.1 (.missingField fields.first.1))
      | (_, none) => throw (.before last.1 (.missingField fields.second.1))
    | '[' :: rest =>
      let (a, afterFirst) ← readItem name 0 fields.first.2 rest
      let (b, afterSecond) ← readItem name 1 fields.second.2 afterFirst.1
      let last ← closeList afterSecond.1
      return ((a, b), ⟨last.1, Nat.le_trans last.2 (Nat.le_trans afterSecond.2
        (Nat.le_trans afterFirst.2
          (Nat.le_trans (by rw [hrest]; exact Nat.le_succ _) start.2)))⟩)
    | _ => refuseType name start.1

def read {α : Type} (value : Reader α) (source : String) : Except Fault α := do
  let (v, rest) ← value source.toList
  let last := skipBlanks rest.1
  if last.1.isEmpty then return v else throw (.past last.1 .trailingCharacters)

end Colloquy.Json
