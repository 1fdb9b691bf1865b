import Colloquy.Json.Number

/-!
JSON values, and how they are written: compactly, or over several lines with two blanks per level.
-/

namespace Colloquy

/-- A value.  Numbers that are no naturals below 2^64 are kept as text. -/
inductive Json where
  | null
  | boolean (value : Bool)
  | natural (value : Nat)
  | otherNumber (text : String)
  | text (value : String)
  | list (items : List Json)
  | object (members : List (String × Json))

namespace Json

instance : Inhabited Json := ⟨.null⟩

def hexDigit (n : Nat) : Char :=
  if n < 10 then Char.ofNat (48 + n) else Char.ofNat (87 + n)

/-- Quotes, backslashes and control characters are escaped, by one letter where there is one. -/
def escape (c : Char) : List Char :=
  if c = '"' then ['\\', '"']
  else if c = '\\' then ['\\', '\\']
  else if c = '\x08' then ['\\', 'b']
  else if c = '\t' then ['\\', 't']
  else if c = '\n' then ['\\', 'n']
  else if c = '\x0C' then ['\\', 'f']
  else if c = '\r' then ['\\', 'r']
  else if c.toNat < 0x20 then
    ['\\', 'u', '0', '0', hexDigit (c.toNat / 16), hexDigit (c.toNat % 16)]
  else [c]

def quoted (s : String) : List Char := '"' :: s.toList.flatMap escape ++ ['"']

mutual

def compactChars : Json → List Char
  | .null => "null".toList
  | .boolean value => (if value then "true" else "false").toList
  | .natural value => (toString value).toList
  | .otherNumber written => written.toList
  | .text value => quoted value
  | .list items => '[' :: compactItems items
  | .object members => '{' :: compactMembers members

def compactItems : List Json → List Char
  | [] => [']']
  | item :: items =>
    compactChars item ++ (if items.isEmpty then [] else [',']) ++ compactItems items

def compactMembers : List (String × Json) → List Char
  | [] => ['}']
  | (key, value) :: members =>
    quoted key ++ ':' :: compactChars value ++
      (if members.isEmpty then [] else [',']) ++ compactMembers members

end

def compact (value : Json) : String := String.ofList value.compactChars

def breakLine (level : Nat) : List Char := '\n' :: List.replicate (2 * level) ' '

mutual

/-- `level` is the depth at which the value stands. -/
def prettyChars (level : Nat) : Json → List Char
  | .null => "null".toList
  | .boolean value => (if value then "true" else "false").toList
  | .natural value => (toString value).toList
  | .otherNumber written => written.toList
  | .text value => quoted value
  | .list items => if items.isEmpty then ['[', ']'] else '[' :: prettyItems level items
  | .object members => if members.isEmpty then ['{', '}'] else '{' :: prettyMembers level members

def prettyItems (level : Nat) : List Json → List Char
  | [] => breakLine level ++ [']']
  | item :: items =>
    breakLine (level + 1) ++ prettyChars (level + 1) item ++
      (if items.isEmpty then [] else [',']) ++ prettyItems level items

def prettyMembers (level : Nat) : List (String × Json) → List Char
  | [] => breakLine level ++ ['}']
  | (key, value) :: members =>
    breakLine (level + 1) ++ quoted key ++ ':' :: ' ' :: prettyChars (level + 1) value ++
      (if members.isEmpty then [] else [',']) ++ prettyMembers level members

end

def pretty (value : Json) : String := String.ofList (value.prettyChars 0)

end Json

end Colloquy
