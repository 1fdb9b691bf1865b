import Colloquy.Text.Property.Current

/-!
Text between quotes with everything invisible spelled out, for messages.
-/

namespace Colloquy.Text

/-- Marks that are drawn on the character before them.  The voicing marks of halfwidth Katakana
have a place of their own. -/
private def attached : CodeSet :=
  Property.Current.graphemeExtend.diff (.ofRange 0xFF9E 0xFF9F)

/-- Letters that keep the place of a missing part of a Hangul syllable. -/
private def fillers : CodeSet :=
  .ofRanges [(0x115F, 0x1160), (0x3164, 0x3164), (0xFFA0, 0xFFA0)]

private def invisible : CodeSet :=
  .unions [Category.setOf ([.control, .format, .privateUse] ++ Category.separators),
    Property.Current.unassigned, attached, fillers]

/-- Characters that do not show, or only on others, are written as their code in braces. -/
def visible (c : Char) : List Char :=
  if c = '\x00' then ['\\', '0']
  else if c = '\t' then ['\\', 't']
  else if c = '\r' then ['\\', 'r']
  else if c = '\n' then ['\\', 'n']
  else if c = '"' ∨ c = '\\' then ['\\', c]
  else if c ≠ ' ' ∧ invisible.contains c then
    "\\u".toList ++ '{' :: Nat.toDigits 16 c.toNat ++ ['}']
  else [c]

def visibleQuoted (s : String) : String :=
  String.ofList ('"' :: s.toList.flatMap visible ++ ['"'])

end Colloquy.Text
