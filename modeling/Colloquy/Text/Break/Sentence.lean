import Colloquy.Text.Break.Word

/-!
What characters do at the boundaries of sentences.
-/

namespace Colloquy.Text

inductive SentenceBreak where
  | carriageReturn
  | lineFeed
  | separator
  | extend
  | format
  | blank
  | lower
  | upper
  | otherLetter
  | numeric
  | fullStop
  | continuation
  | terminator
  | closing
deriving DecidableEq, Repr

namespace SentenceBreak

def names : SentenceBreak → List String
  | .carriageReturn => ["cr"]
  | .lineFeed => ["lf"]
  | .separator => ["se", "sep"]
  | .extend => ["ex", "extend"]
  | .format => ["fo", "format"]
  | .blank => ["sp"]
  | .lower => ["lo", "lower"]
  | .upper => ["up", "upper"]
  | .otherLetter => ["le", "oletter"]
  | .numeric => ["nu", "numeric"]
  | .fullStop => ["at", "aterm"]
  | .continuation => ["sc", "scontinue"]
  | .terminator => ["st", "sterm"]
  | .closing => ["cl", "close"]

def all : List SentenceBreak :=
  [.carriageReturn, .lineFeed, .separator, .extend, .format, .blank, .lower, .upper, .otherLetter,
   .numeric, .fullStop, .continuation, .terminator, .closing]

def find? (name : String) : Option SentenceBreak := all.find? (·.names.contains name)

private def separators : CodeSet := .ofRanges [(0x85, 0x85), (0x2028, 0x2029)]

private def extenders : CodeSet :=
  .unions [Property.graphemeExtend, Category.spacingMark.set, .ofRange 0x200D 0x200D]

/-- The small letters of Georgian can begin a sentence, so they do not count, and neither do its
capitals. -/
private def lowerLetters : CodeSet :=
  Property.lowercase.diff
    (Property.graphemeExtend.union (.ofRanges [(0x10D0, 0x10FA), (0x10FD, 0x10FF)]))

private def upperLetters : CodeSet :=
  (Property.uppercase.union Category.titlecaseLetter.set).diff
    (.ofRanges [(0x1C90, 0x1CBA), (0x1CBD, 0x1CBF)])

private def fullStops : CodeSet := .ofGaps "46 1 8181 1 56877 1 187 1"

def set : SentenceBreak → CodeSet
  | .carriageReturn => .singleton '\r'
  | .lineFeed => .singleton '\n'
  | .separator => separators
  | .extend => extenders
  | .format => Category.format.set.diff (extenders.union WordBreak.numbers)
  | .blank => (CodeSet.ofRanges blankRanges).diff
      (separators.union (.ofRanges [(0x0A, 0x0A), (0x0D, 0x0D)]))
  | .lower => lowerLetters
  | .upper => upperLetters
  | .otherLetter => (Property.alphabetic.union (.ofRange 0x05F3 0x05F3)).diff
      (.unions [lowerLetters, upperLetters, extenders])
  | .numeric => WordBreak.numbers.union (.ofRange 0x066C 0x066C)
  | .fullStop => fullStops
  | .continuation => .ofGaps "
      44 2 12 2 834 1 478 1 174 2 490 1 4105 1 5 1 2058 2 4076 1 52750 2 1 2 28 2 29 2 2 2 2 1 10 1
      168 2 12 2 72 1"
  | .terminator => Property.sentenceTerminal.diff fullStops
  | .closing => (Category.setOf
      [.openPunctuation, .closePunctuation, .initialPunctuation, .finalPunctuation]).union
      (.ofGaps "34 1 4 1 10035 6 1695 2 4 3 2 1 116842 3")

end SentenceBreak

end Colloquy.Text
