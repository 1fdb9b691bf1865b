import Colloquy.Dict
import Colloquy.Span
import Colloquy.Text.Blank

/-!
Trees of elements and text.  Comments and processing instructions leave no trace but the split of
the text around them.
-/

namespace Colloquy.Markup

mutual

inductive Node where
  | text (value : String) (span : Span)
  | element (element : Element)

structure Element where
  name : String
  attributes : Dict String
  children : List Node
  span : Span

end

instance : Inhabited Element := ⟨⟨"", ∅, [], .synthetic⟩⟩

namespace Element

/-- The value of an attribute; empty if there is none. -/
def attr (e : Element) (name : String) : String := (e.attributes.get? name).getD ""

def elements (e : Element) : List Element :=
  e.children.filterMap fun
    | .element child => some child
    | .text _ _ => none

def elementsNamed (e : Element) (name : String) : List Element :=
  e.elements.filter (·.name = name)

end Element

mutual

/-- All text inside the element, in document order. -/
def Element.characterData : Element → String
  | ⟨_, _, children, _⟩ => characterDataOf children

def characterDataOf : List Node → String
  | [] => ""
  | .text value _ :: rest => value ++ characterDataOf rest
  | .element e :: rest => e.characterData ++ characterDataOf rest

end

def Element.textContent (e : Element) : String := Text.trim e.characterData

mutual

/-- The tree without its blank pieces of text. -/
def Element.dropBlank : Element → Element
  | ⟨name, attributes, children, span⟩ => ⟨name, attributes, dropBlankNodes children, span⟩

def dropBlankNodes : List Node → List Node
  | [] => []
  | .text value span :: rest =>
    if Text.allBlank value.toList then dropBlankNodes rest
    else .text value span :: dropBlankNodes rest
  | .element e :: rest => .element e.dropBlank :: dropBlankNodes rest

end

@[simp] theorem Element.name_dropBlank (e : Element) : e.dropBlank.name = e.name := by
  cases e
  rfl

end Colloquy.Markup
