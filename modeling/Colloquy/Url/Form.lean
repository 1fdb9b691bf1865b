import Colloquy.Text.Pieces
import Colloquy.Url.Percent

/-!
The form encoding of key-value pairs: pairs joined by `&`, a key and its value by `=`, a space
written `+`.
-/

namespace Colloquy.Url.Form

def keeps (c : Char) : Bool := c.isAlphanum || c ∈ ['*', '-', '.', '_']

/-- ASCII letters, digits and `*-._` stand for themselves, a space is `+`, other bytes are
escaped. -/
def encodeChars (cs : List Char) : List Char :=
  cs.flatMap fun c =>
    if c = ' ' then ['+']
    else if c.toNat < 0x80 && keeps c then [c]
    else (String.utf8EncodeChar c).flatMap escapeByte

def encodeText (s : String) : String := String.ofList (encodeChars s.toList)

def encodePairs : List (String × String) → List Char
  | [] => []
  | [(key, value)] => encodeChars key.toList ++ '=' :: encodeChars value.toList
  | (key, value) :: rest =>
    encodeChars key.toList ++ '=' :: encodeChars value.toList ++ '&' :: encodePairs rest

def encode (pairs : List (String × String)) : String := String.ofList (encodePairs pairs)

def decodeChars (cs : List Char) : String :=
  Text.Utf8.decodeLossy (percentDecode (cs.map fun c => if c = '+' then ' ' else c))

def decodePair (piece : List Char) : String × String :=
  let (key, value) := Text.cutAt '=' piece
  (decodeChars key, decodeChars value)

/-- Empty pieces are skipped; a piece without `=` is a key with the empty value. -/
def decode (s : String) : List (String × String) :=
  ((Text.pieces '&' s.toList).filter (· ≠ [])).map decodePair

end Colloquy.Url.Form
