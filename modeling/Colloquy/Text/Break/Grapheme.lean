import Colloquy.Text.Property.Named

/-!
What characters do at the boundaries of user-perceived characters.
-/

namespace Colloquy.Text

inductive GraphemeBreak where
  | carriageReturn
  | lineFeed
  | control
  | extend
  | joiner
  | regionalIndicator
  | prepended
  | spacingMark
  | leadingConsonant
  | vowel
  | trailingConsonant
  | openSyllable
  | closedSyllable
deriving DecidableEq, Repr

namespace GraphemeBreak

def names : GraphemeBreak → List String
  | .carriageReturn => ["cr"]
  | .lineFeed => ["lf"]
  | .control => ["cn", "control"]
  | .extend => ["ex", "extend"]
  | .joiner => ["zwj"]
  | .regionalIndicator => ["ri", "regionalindicator"]
  | .prepended => ["pp", "prepend"]
  | .spacingMark => ["sm", "spacingmark"]
  | .leadingConsonant => ["l"]
  | .vowel => ["v"]
  | .trailingConsonant => ["t"]
  | .openSyllable => ["lv"]
  | .closedSyllable => ["lvt"]

def all : List GraphemeBreak :=
  [.carriageReturn, .lineFeed, .control, .extend, .joiner, .regionalIndicator, .prepended,
   .spacingMark, .leadingConsonant, .vowel, .trailingConsonant, .openSyllable, .closedSyllable]

def find? (name : String) : Option GraphemeBreak := all.find? (·.names.contains name)

private def extenders : CodeSet := Property.graphemeExtend.union Property.emojiModifier

/-- Controls and invisible characters that stand by themselves. -/
private def controls : CodeSet :=
  (CodeSet.unions [
    Category.setOf [.control, .format, .lineSeparator, .paragraphSeparator],
    Property.defaultIgnorable.inter Category.unassigned.set]).diff
  (.unions [extenders, Property.prependedConcatenationMark,
    .ofRanges [(0x0A, 0x0A), (0x0D, 0x0D), (0x200D, 0x200D)]])

/-- The syllables of Hangul come in runs of 28, and the first of each run has no consonant at its
end. -/
private def openSyllables : CodeSet :=
  .ofRanges ((List.range 399).map fun run => (0xAC00 + 28 * run, 0xAC00 + 28 * run))

def set : GraphemeBreak → CodeSet
  | .carriageReturn => .singleton '\r'
  | .lineFeed => .singleton '\n'
  | .control => controls
  | .extend => extenders
  | .joiner => .ofRange 0x200D 0x200D
  | .regionalIndicator => Property.regionalIndicator
  | .prepended => Property.prependedConcatenationMark.union
      (.ofGaps "3406 1 66675 2 525 1 1389 1 1 1 248 1 73 6 700 1 443 1")
  | .spacingMark => ((Category.spacingMark.set.diff Property.graphemeExtend).diff
      (.ofGaps "4139 2 11 1 41 3 2 7 21 1 3 6 2 1 10 3 2500 1 1 2 36886 1 1 1 27810 2")).union
      (.ofGaps "3635 1 127 1")
  | .leadingConsonant => .ofRanges [(0x1100, 0x115F), (0xA960, 0xA97C)]
  | .vowel => .ofRanges [(0x1160, 0x11A7), (0xD7B0, 0xD7C6), (0x16D63, 0x16D63), (0x16D67, 0x16D6A)]
  | .trailingConsonant => .ofRanges [(0x11A8, 0x11FF), (0xD7CB, 0xD7FB)]
  | .openSyllable => openSyllables
  | .closedSyllable => (CodeSet.ofRange 0xAC00 0xD7A3).diff openSyllables

end GraphemeBreak

end Colloquy.Text
