import Colloquy.Json.Fault
import Colloquy.Text.Numeral
import Colloquy.Url.Percent

/-!
Reading the parts of JSON that do not nest: blanks, words, text and numbers.  A reading step hands
back what is left of its input, which is bound by type to be no longer than the input.
-/

namespace Colloquy.Json

/-- What may be left of `input`. -/
abbrev Left (input : List Char) := { rest : List Char // rest.length ≤ input.length }

/-- What may be left of `input` once something has been read. -/
abbrev Less (input : List Char) := { rest : List Char // rest.length < input.length }

def Left.all (input : List Char) : Left input := ⟨input, Nat.le_refl _⟩

def Left.tail (c : Char) (rest : List Char) : Left (c :: rest) := ⟨rest, Nat.le_succ _⟩

def Left.andThen {input : List Char} (start : Left input) (last : Left start.1) : Left input :=
  ⟨last.1, Nat.le_trans last.2 start.2⟩

def isBlank (c : Char) : Bool := c == ' ' || c == '\n' || c == '\t' || c == '\r'

def skipBlanks (input : List Char) : Left input :=
  ⟨input.dropWhile isBlank, (List.dropWhile_suffix _).length_le⟩

def readWord (word : List Char) (input : List Char) : Except Fault (Left input) :=
  match word, input with
  | [], input => .ok (Left.all input)
  | _ :: _, [] => .error (.before [] .endInValue)
  | expected :: word, c :: rest =>
    if c = expected then
      (readWord word rest).map fun left => ⟨left.1, Nat.le_succ_of_le left.2⟩
    else .error (.past (c :: rest) .expectedWord)

/-!
Text.
-/

def readUnit (input : List Char) : Except Fault (Nat × Left input) :=
  if byteLength input < 4 then .error (.before [] .endInString)
  else match (input.take 4).mapM Url.hexValue? with
    | some digits =>
      .ok (digits.foldl (fun n d => n * 16 + d) 0, ⟨input.drop 4, by simp⟩)
    | none => .error ⟨.invalidEscape, byteLength input - 4⟩

def isHighSurrogate (unit : Nat) : Bool := 0xD800 ≤ unit && unit < 0xDC00

def isLowSurrogate (unit : Nat) : Bool := 0xDC00 ≤ unit && unit < 0xE000

private def expectAfterSurrogate (expected : Char) (input : List Char) :
    Except Fault (Left input) :=
  match input with
  | [] => .error (.before [] .endInString)
  | c :: rest =>
    if c = expected then .ok (Left.tail _ rest)
    else .error (.past (c :: rest) .unfinishedSurrogate)

/-- A character by its code, after the letter `u`; one beyond the first 65536 takes two codes. -/
def readCode (input : List Char) : Except Fault (Char × Left input) := do
  let (unit, rest) ← readUnit input
  if isLowSurrogate unit then throw (.before rest.1 .unpairedSurrogate)
  if isHighSurrogate unit then
    let mark ← expectAfterSurrogate '\\' rest.1
    let letter ← expectAfterSurrogate 'u' mark.1
    let (low, last) ← readUnit letter.1
    if isLowSurrogate low then
      return (Char.ofNat ((unit - 0xD800) * 0x400 + (low - 0xDC00) + 0x10000), ⟨last.1, by
        have := rest.2; have := mark.2; have := letter.2; have := last.2; omega⟩)
    else throw (.before last.1 .unpairedSurrogate)
  else return (Char.ofNat unit, rest)

/-- The characters that have an escape sequence of one letter, with the letter. -/
def shortEscapes : List (Char × Char) :=
  [('"', '"'), ('\\', '\\'), ('/', '/'), ('b', '\x08'), ('f', '\x0C'), ('n', '\n'), ('r', '\r'),
   ('t', '\t')]

def readEscape (input : List Char) : Except Fault (Char × Left input) :=
  match input with
  | [] => .error (.before [] .endInString)
  | 'u' :: rest => (readCode rest).map fun (c, left) => (c, ⟨left.1, Nat.le_succ_of_le left.2⟩)
  | letter :: rest =>
    match shortEscapes.lookup letter with
    | some c => .ok (c, Left.tail _ rest)
    | none => .error (.past (letter :: rest) .invalidEscape)

/-- The characters of a text, after its opening quote and through its closing one. -/
def readCharacters (input : List Char) : Except Fault (List Char × Left input) :=
  match input with
  | [] => .error (.before [] .endInString)
  | '"' :: rest => .ok ([], Left.tail _ rest)
  | '\\' :: rest => do
    let (c, afterEscape) ← readEscape rest
    let (cs, last) ← readCharacters afterEscape.1
    return (c :: cs, ⟨last.1,
      Nat.le_succ_of_le (Nat.le_trans last.2 afterEscape.2)⟩)
  | c :: rest =>
    if c.toNat < 0x20 then .error (.before rest .controlCharacter)
    else do
      let (cs, last) ← readCharacters rest
      return (c :: cs, ⟨last.1, Nat.le_succ_of_le last.2⟩)
termination_by input.length
decreasing_by
  · exact Nat.lt_succ_of_le afterEscape.2
  · exact Nat.lt_succ_self _

/-- Passes a text without looking at what its escape sequences mean. -/
def skipCharacters (input : List Char) : Except Fault (Left input) :=
  match input with
  | [] => .error (.before [] .endInString)
  | '"' :: rest => .ok (Left.tail _ rest)
  | '\\' :: rest => do
    let afterEscape ← skipEscape rest
    let last ← skipCharacters afterEscape.1
    return ⟨last.1, Nat.le_succ_of_le (Nat.le_trans last.2 afterEscape.2)⟩
  | c :: rest =>
    if c.toNat < 0x20 then .error (.before (c :: rest) .controlCharacter)
    else do
      let last ← skipCharacters rest
      return ⟨last.1, Nat.le_succ_of_le last.2⟩
termination_by input.length
decreasing_by
  · exact Nat.lt_succ_of_le afterEscape.2
  · exact Nat.lt_succ_self _
where
  skipEscape (input : List Char) : Except Fault (Left input) :=
    match input with
    | [] => .error (.before [] .endInString)
    | 'u' :: rest => (readUnit rest).map fun (_, left) => ⟨left.1, Nat.le_succ_of_le left.2⟩
    | letter :: rest =>
      if (shortEscapes.lookup letter).isSome then .ok (Left.tail _ rest)
      else .error (.past (letter :: rest) .invalidEscape)

/-!
Numbers.
-/

def skipDigits (input : List Char) : Left input :=
  ⟨input.dropWhile Char.isDigit, (List.dropWhile_suffix _).length_le⟩

def startsWithDigit (input : List Char) : Bool := input.head?.any Char.isDigit

private def skipExponent (input : List Char) : Except Fault (Left input) :=
  let unsigned : Left input := match input with
    | '+' :: rest => Left.tail _ rest
    | '-' :: rest => Left.tail _ rest
    | input => Left.all input
  if startsWithDigit unsigned.1 then
    let last := skipDigits unsigned.1
    .ok ⟨last.1, Nat.le_trans last.2 unsigned.2⟩
  else .error (.past unsigned.1 .invalidNumber)

private def skipFraction (input : List Char) : Except Fault (Left input) :=
  if startsWithDigit input then
    let digits := skipDigits input
    let exponent : Option (Left digits.1) := match digits.1 with
      | 'e' :: rest => some (Left.tail _ rest)
      | 'E' :: rest => some (Left.tail _ rest)
      | _ => none
    match exponent with
    | some start => (skipExponent start.1).map fun last =>
      ⟨last.1, Nat.le_trans last.2 (Nat.le_trans start.2 digits.2)⟩
    | none => .ok digits
  else .error (.past input .invalidNumber)

/-- Passes a number whose first digit is `c`, without looking at its value. -/
def skipNumber (c : Char) (input : List Char) : Except Fault (Left input) := do
  if !c.isDigit then throw (.past (c :: input) .invalidNumber)
  let whole : Left input := if c = '0' then Left.all input else skipDigits input
  if startsWithDigit whole.1 then throw (.past whole.1 .invalidNumber)
  match hrest : whole.1 with
  | '.' :: rest => (skipFraction rest).map fun last => within hrest whole.2 last
  | 'e' :: rest => (skipExponent rest).map fun last => within hrest whole.2 last
  | 'E' :: rest => (skipExponent rest).map fun last => within hrest whole.2 last
  | _ => return whole
where
  within {input whole rest : List Char} {c : Char} (hrest : whole = c :: rest)
      (h : whole.length ≤ input.length) (last : Left rest) : Left input :=
    ⟨last.1, Nat.le_trans last.2 (Nat.le_trans (by rw [hrest]; exact Nat.le_succ _) h)⟩

def skipNegative (input : List Char) : Except Fault (Left input) :=
  match input with
  | [] => .error (.past [] .invalidNumber)
  | c :: rest => (skipNumber c rest).map fun last => ⟨last.1, Nat.le_succ_of_le last.2⟩

end Colloquy.Json
