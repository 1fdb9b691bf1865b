import Colloquy.Text.Property

/-!
Word characters: the properties Alphabetic and Join_Control, the marks, the decimal digits and the
connectors.
-/

namespace Colloquy.Text

def wordSet : CodeSet :=
  .unions [Property.alphabetic, Property.joinControl,
    Category.setOf (.decimalNumber :: .connectorPunctuation :: Category.marks)]

/-- Below U+0080 these are the letters, the digits and the underscore. -/
def isWord (c : Char) : Bool :=
  if c.toNat < 0x80 then c.isAlphanum || c == '_' else wordSet.contains c

end Colloquy.Text
