/-!
Why a text is refused as JSON.  A place is told by how many bytes are left of the text.
-/

namespace Colloquy.Json

inductive Cause where
  | endInValue
  | endInList
  | endInObject
  | endInString
  | expectedValue
  | expectedWord
  | expectedColon
  | expectedListEnd
  | expectedObjectEnd
  | keyNotText
  | trailingComma
  | trailingCharacters
  | invalidNumber
  | numberOutOfRange
  | invalidEscape
  | controlCharacter
  | unpairedSurrogate
  | unfinishedSurrogate
  | tooDeep
  | wrongType (found expected : String)
  | wrongLength (count : Nat) (expected : String)
  | missingField (name : String)
  | repeatedField (name : String)
deriving DecidableEq, Repr

def Cause.message : Cause → String
  | .endInValue => "EOF while parsing a value"
  | .endInList => "EOF while parsing a list"
  | .endInObject => "EOF while parsing an object"
  | .endInString => "EOF while parsing a string"
  | .expectedValue => "expected value"
  | .expectedWord => "expected ident"
  | .expectedColon => "expected `:`"
  | .expectedListEnd => "expected `,` or `]`"
  | .expectedObjectEnd => "expected `,` or `\x7d`"
  | .keyNotText => "key must be a string"
  | .trailingComma => "trailing comma"
  | .trailingCharacters => "trailing characters"
  | .invalidNumber => "invalid number"
  | .numberOutOfRange => "number out of range"
  | .invalidEscape => "invalid escape"
  | .controlCharacter =>
    "control character (\\u0000-\\u001F) found while parsing a string"
  | .unpairedSurrogate => "lone leading surrogate in hex escape"
  | .unfinishedSurrogate => "unexpected end of hex escape"
  | .tooDeep => "recursion limit exceeded"
  | .wrongType found expected => s!"invalid type: {found}, expected {expected}"
  | .wrongLength count expected => s!"invalid length {count}, expected {expected}"
  | .missingField name => s!"missing field `{name}`"
  | .repeatedField name => s!"duplicate field `{name}`"

structure Fault where
  cause : Cause
  bytesLeft : Nat
deriving DecidableEq, Repr

def byteLength (cs : List Char) : Nat := cs.foldr (fun c bytes => c.utf8Size + bytes) 0

namespace Fault

/-- A fault right before `rest`. -/
def before (rest : List Char) (cause : Cause) : Fault := ⟨cause, byteLength rest⟩

/-- A fault right after the first byte of `rest`. -/
def past (rest : List Char) (cause : Cause) : Fault := ⟨cause, byteLength rest - 1⟩

/-- The line, and how many bytes have been read of it, after the first bytes of a text. -/
private def placeFrom (line column : Nat) : List Char → Nat → Nat × Nat
  | [], _ => (line, column)
  | c :: rest, bytes =>
    if bytes = 0 then (line, column)
    else if c = '\n' then placeFrom (line + 1) 0 rest (bytes - 1)
    else if bytes < c.utf8Size then (line, column + bytes)
    else placeFrom line (column + c.utf8Size) rest (bytes - c.utf8Size)

def message (fault : Fault) (source : String) : String :=
  let cs := source.toList
  let (line, column) := placeFrom 1 0 cs (byteLength cs - fault.bytesLeft)
  s!"{fault.cause.message} at line {line} column {column}"

end Fault

end Colloquy.Json
