/-!
Places in a source text.  Lines and columns count from one, columns in characters.
-/

namespace Colloquy

structure Location where
  line : Nat
  column : Nat
deriving DecidableEq, Repr

namespace Location

def first : Location := ⟨1, 1⟩

def after (place : Location) (c : Char) : Location :=
  if c = '\n' then ⟨place.line + 1, 1⟩ else ⟨place.line, place.column + 1⟩

def text (place : Location) : String := s!"{place.line}:{place.column}"

end Location

structure Span where
  start : Location
  stop : Location
deriving DecidableEq, Repr

/-- Stands in where there is no source text. -/
def Span.synthetic : Span := ⟨.first, .first⟩

end Colloquy
