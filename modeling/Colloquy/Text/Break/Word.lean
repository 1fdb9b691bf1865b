import Colloquy.Text.Property.Named

/-!
What characters do at the boundaries of words.
-/

namespace Colloquy.Text

inductive WordBreak where
  | carriageReturn
  | lineFeed
  | newline
  | extend
  | joiner
  | regionalIndicator
  | format
  | katakana
  | hebrewLetter
  | otherLetter
  | singleQuote
  | doubleQuote
  | midNumberOrLetter
  | midLetter
  | midNumber
  | numeric
  | connector
  | blank
deriving DecidableEq, Repr

namespace WordBreak

def names : WordBreak → List String
  | .carriageReturn => ["cr"]
  | .lineFeed => ["lf"]
  | .newline => ["nl", "newline"]
  | .extend => ["extend"]
  | .joiner => ["zwj"]
  | .regionalIndicator => ["ri", "regionalindicator"]
  | .format => ["fo", "format"]
  | .katakana => ["ka", "katakana"]
  | .hebrewLetter => ["hl", "hebrewletter"]
  | .otherLetter => ["le", "aletter"]
  | .singleQuote => ["sq", "singlequote"]
  | .doubleQuote => ["dq", "doublequote"]
  | .midNumberOrLetter => ["mb", "midnumlet"]
  | .midLetter => ["ml", "midletter"]
  | .midNumber => ["mn", "midnum"]
  | .numeric => ["nu", "numeric"]
  | .connector => ["ex", "extendnumlet"]
  | .blank => ["wsegspace"]

def all : List WordBreak :=
  [.carriageReturn, .lineFeed, .newline, .extend, .joiner, .regionalIndicator, .format, .katakana,
   .hebrewLetter, .otherLetter, .singleQuote, .doubleQuote, .midNumberOrLetter, .midLetter,
   .midNumber, .numeric, .connector, .blank]

def find? (name : String) : Option WordBreak := all.find? (·.names.contains name)

private def extenders : CodeSet :=
  .unions [Property.graphemeExtend, Category.spacingMark.set, Property.emojiModifier]

private def joiners : CodeSet := .ofRange 0x200D 0x200D

private def katakanaLetters : CodeSet :=
  .ofGaps "12337 5 101 2 3 91 1 4 240 16 208 47 1 88 52238 56 45138 4 1 7 1 2 1 1 287 3 50 1 14 4"

private def hebrewLetters : CodeSet :=
  .ofGaps "1488 27 4 4 62762 1 1 10 1 13 1 5 1 1 1 2 1 2 1 10"

/-- Letters of scripts that are written without blanks between words. -/
private def unspacedLetters : CodeSet :=
  .ofGaps "
    3585 48 1 2 12 7 58 2 1 1 1 5 1 24 1 1 1 10 1 2 9 1 2 5 1 1 21 4 288 43 20 1 16 6 4 4 3 1 3 2 7
    3 4 13 12 1 1777 52 35 1 4 1 371 30 2 5 11 44 4 26 86 53 82 1 5529 86 6 3 31040 5 1 10 10 5 97
    23 3 1 3 50 1 1 3 2 2 5 2 1 1 1 24 3 27682 27 37 7 39098 287 18 1 29 3"

private def letters : CodeSet :=
  (Property.alphabetic.diff (.unions [extenders, katakanaLetters, hebrewLetters, unspacedLetters,
    Property.ideographic])).union
  (.ofGaps "184 1 521 4 12 6 6 2 5 7 1 1 1 17 602 3 1 1 43 1 104 1 283 1 40952 15 9 2 103 2 976 1")

/-- Decimal digits, marks that stand before a whole number, and a few more. -/
def numbers : CodeSet :=
  (CodeSet.unions [Category.decimalNumber.set, Property.prependedConcatenationMark,
    .ofRanges [(0x066B, 0x066B), (0x19DA, 0x19DA)]]).diff (.ofRange 0x070F 0x070F)

def set : WordBreak → CodeSet
  | .carriageReturn => .singleton '\r'
  | .lineFeed => .singleton '\n'
  | .newline => .ofRanges [(0x0B, 0x0C), (0x85, 0x85), (0x2028, 0x2029)]
  | .extend => extenders
  | .joiner => joiners
  | .regionalIndicator => Property.regionalIndicator
  | .format => Category.format.set.diff (.unions
      [extenders, joiners, Property.prependedConcatenationMark, .ofRange 0x200B 0x200B])
  | .katakana => katakanaLetters
  | .hebrewLetter => hebrewLetters
  | .otherLetter => letters
  | .singleQuote => .ofRange 0x27 0x27
  | .doubleQuote => .singleton '"'
  | .midNumberOrLetter => .ofGaps "46 1 8169 2 10 1 56877 1 180 1 6 1"
  | .midLetter => .ofGaps "58 1 124 1 719 1 471 1 148 1 6706 1 56811 1 65 1 196 1"
  | .midNumber => .ofGaps "44 1 14 1 834 1 522 1 130 2 94 1 395 1 6219 1 56843 1 3 1 183 1 14 1"
  | .numeric => numbers
  | .connector => Category.connectorPunctuation.set.union (.ofRange 0x202F 0x202F)
  | .blank => .ofGaps "32 1 5727 1 2431 7 1 3 84 1 4000 1"

end WordBreak

end Colloquy.Text
