/-!
UTF-8.  Decoding runs a machine over the bytes, one at a time; a byte that cannot go on ends the
sequence begun before it, so each maximal malformed prefix counts once.
-/

namespace Colloquy.Text.Utf8

def encode (s : String) : List UInt8 := s.toList.flatMap String.utf8EncodeChar

/-- A sequence begun: its value so far, the tails it still owes, and the range of the next one. -/
structure Pending where
  value : Nat
  owed : Nat
  low : UInt8
  high : UInt8

inductive Lead where
  | char (c : Char)
  | begins (pending : Pending)
  | malformed

def Lead.ofByte (b : UInt8) : Lead :=
  if b < 0x80 then .char (Char.ofNat b.toNat)
  else if b < 0xC2 then .malformed
  else if b < 0xE0 then .begins ⟨b.toNat - 0xC0, 1, 0x80, 0xBF⟩
  else if b == 0xE0 then .begins ⟨0, 2, 0xA0, 0xBF⟩
  else if b == 0xED then .begins ⟨0xD, 2, 0x80, 0x9F⟩
  else if b < 0xF0 then .begins ⟨b.toNat - 0xE0, 2, 0x80, 0xBF⟩
  else if b == 0xF0 then .begins ⟨0, 3, 0x90, 0xBF⟩
  else if b < 0xF4 then .begins ⟨b.toNat - 0xF0, 3, 0x80, 0xBF⟩
  else if b == 0xF4 then .begins ⟨4, 3, 0x80, 0x8F⟩
  else .malformed

def replacement : Char := '\uFFFD'

/-- The state of lossy decoding: the characters found, latest first, and the sequence begun. -/
structure Decoding where
  found : List Char
  pending : Option Pending

namespace Decoding

def initial : Decoding := ⟨[], none⟩

private def start (found : List Char) (b : UInt8) : Decoding :=
  match Lead.ofByte b with
  | .char c => ⟨c :: found, none⟩
  | .begins pending => ⟨found, some pending⟩
  | .malformed => ⟨replacement :: found, none⟩

def feed (state : Decoding) (b : UInt8) : Decoding :=
  match state.pending with
  | none => start state.found b
  | some p =>
    if p.low ≤ b ∧ b ≤ p.high then
      let value := p.value * 64 + (b.toNat - 0x80)
      if p.owed ≤ 1 then ⟨Char.ofNat value :: state.found, none⟩
      else ⟨state.found, some ⟨value, p.owed - 1, 0x80, 0xBF⟩⟩
    else start (replacement :: state.found) b

@[simp] theorem feed_idle (found : List Char) (b : UInt8) :
    feed ⟨found, none⟩ b =
      match Lead.ofByte b with
      | .char c => ⟨c :: found, none⟩
      | .begins pending => ⟨found, some pending⟩
      | .malformed => ⟨replacement :: found, none⟩ := rfl

def finish (state : Decoding) : List Char :=
  match state.pending with
  | none => state.found.reverse
  | some _ => (replacement :: state.found).reverse

end Decoding

/-- Decodes, with one replacement character for each maximal malformed prefix. -/
def decodeLossy (bytes : List UInt8) : String :=
  String.ofList (bytes.foldl Decoding.feed .initial).finish

end Colloquy.Text.Utf8
