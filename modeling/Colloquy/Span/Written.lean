import Colloquy.Json.Reader
import Colloquy.Span

/-!
Places in a source text as JSON.
-/

namespace Colloquy

def Location.toJson (place : Location) : Json :=
  .object [("line", .natural place.line), ("column", .natural place.column)]

def Location.reader : Json.Reader Location := fun input =>
  (Json.readRecord "struct SourceLocation"
    ⟨("line", Json.readNatural), ("column", Json.readNatural)⟩
    input).map fun ((line, column), rest) => (⟨line, column⟩, rest)

def Span.toJson (span : Span) : Json :=
  .object [("start", span.start.toJson), ("end", span.stop.toJson)]

def Span.reader : Json.Reader Span := fun input =>
  (Json.readRecord "struct SourceSpan" ⟨("start", Location.reader), ("end", Location.reader)⟩
    input).map fun ((start, stop), rest) => (⟨start, stop⟩, rest)

end Colloquy
