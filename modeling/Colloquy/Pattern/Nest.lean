import Colloquy.Span

/-!
How the parts of a pattern stand within each other, and how deep they may.
-/

namespace Colloquy.Pattern

/-- How many parts that hold others may stand within each other. -/
def nestLimit : Nat := 250

/-- The place of a part that holds others, and those of them that do so as well. -/
inductive Nest where
  | node (span : Span) (inner : List Nest)

mutual

/-- The first part that stands too deep, if only `limit` parts may stand within each other. -/
def Nest.beyond? (limit : Nat) : Nest → Option Span
  | .node span inner =>
    match limit with
    | 0 => some span
    | limit + 1 => firstBeyond? limit inner

def firstBeyond? (limit : Nat) : List Nest → Option Span
  | [] => none
  | nest :: nests => (nest.beyond? limit).or (firstBeyond? limit nests)

end

/-- A part as it has been read, with its place and, if it holds others, its nest. -/
structure Part (α : Type) where
  value : α
  span : Span
  nest : Option Nest := none

namespace Part

variable {α β : Type}

/-- Parts one after another.  A single one does not count as holding itself. -/
def join (step : α → α → α) (unit : α) (span : Span) : List (Part α) → Part α
  | [] => ⟨unit, span, none⟩
  | [part] => { part with value := step part.value unit }
  | parts =>
    ⟨(parts.map (·.value)).foldr step unit, span, some (.node span (parts.filterMap (·.nest)))⟩

/-- A part that holds one other. -/
def within (part : Part α) (span : Span) (value : α → β) : Part β :=
  ⟨value part.value, span, some (.node span part.nest.toList)⟩

/-- A part that holds two others. -/
def both (first second : Part α) (value : α → α → β) : Part β :=
  let span : Span := ⟨first.span.start, second.span.stop⟩
  ⟨value first.value second.value, span,
    some (.node span (first.nest.toList ++ second.nest.toList))⟩

end Part

end Colloquy.Pattern
