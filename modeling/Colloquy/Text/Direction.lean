import Colloquy.Text.Property.Current

/-!
The directions of characters, where text that runs to the left meets text that runs to the right.
The tables go as far as names of hosts need them: without capital letters and forms of letters that
such names do not hold.
-/

namespace Colloquy.Text

inductive Direction where
  | rightward
  | leftward
  | europeanNumber
  | arabicNumber
  | attached
  | neutral
deriving DecidableEq, Repr

namespace Direction

private def leftwardSet : CodeSet :=
  .ofGaps "
    1470 1 1 1 2 1 2 1 9 27 4 6 19 1 2 1 1 1 13 1 1 46 34 3 1 4 4 93 15 2 7 2 10 20 2 1 1 30 29 89
    11 1 14 43 9 2 4 1 3 24 4 1 9 1 3 1 7 15 1 25 5 1 1 11 5 32 16 42 62184 17 688 1 2444 6 2 1 1
    44 1 2 3 1 2 23 1 72 8 9 48 19 1 2 5 33 4 26 5 27 38 56 4 20 2 47 15 4 1 3 1 29 10 9 7 9 7 64
    32 37 6 12 9 54 10 22 2 27 5 26 7 4 12 7 80 73 119 51 7 42 38 6 31 23 8 2 240 42 3 1 2 2 16 6
    56 40 8 22 11 9 22 18 4 4 38 28 20 23 55305 197 2 9 82 34 7 1 4 10 4 2 785 68 76 61"

private def arabicNumbers : CodeSet :=
  .ofGaps "1632 10 1 2 67267 10 6 10 278 31"

private def europeanNumbers : CodeSet :=
  .ofGaps "48 10 1718 10 64487 27"

/-- Marks that take the direction of the character before them. -/
private def attachedMarks : CodeSet :=
  Property.Current.nonspacingMark.diff (.ofGaps "3263 1 6 1 68928 2 566 1")

/-- Signs, and numerals that are neither European nor Arabic. -/
private def neutrals : CodeSet :=
  .ofGaps "
    33 15 10 7 26 6 26 4 34 7 1 1 1 2 1 1 1 2 4 2 3 1 3 1 23 1 31 1 449 2 7 14 2 6 6 2 5 9 1 17 117
    1 128 1 403 1 2 3 118 2 1 2 1 1 1 2 90 1 115 1 10 1 268 4 504 2 7 1 245 1 257 8 125 7 448 1 250
    4 1106 10 102 1 666 2 318 1 20 10 6 11 309 1 3 2 152 34 1548 2 2 1 1 5 1 12 3 1 8 3 2 1 2 4 1 1
    1 8 3 13 1 7 65 8 1 25 66 1 3 1 11 1 2 2 5 2 3 1 1 1 1 1 1 1 4 1 11 1 6 4 5 4 60 2 4 156 2 1 2
    248 2 11 69 26 1 148 22 11 160 449 1 339 256 268 1 103 3 101 1 151 2 138 229 6 14 7 256 94 34
    26 1 4 1 83 270 1 1 2 3 25 15 1 6 1 5 3 96 1 90 1 196 38 7130 64 22160 55 326 3 99 1 10 2 128
    34 102 1 159 4 12 2 58 4 754 2 20567 16 363 18 64 2 54 8 45 3 69 2 698 1 62 77 3 13 3 1 1918 1
    537 7 558 1 353 9 377 20 1530 13 2408 29 20464 1 23581 214 36 3 3 436 6 23 15 17 760 2 21 66 3
    1 186 87 4008 1 3056 2 270 44 4 100 12 15 2 15 1 15 1 37 21 5 31 1 61 3 61 1 178 6 154 985 3 17
    3 13 3 218 6 12 4 1 15 12 4 56 8 10 6 40 8 30 2 12 4 2 14 9 39 344 8 14 2 13 3 11 3 57 1 1 4 16
    2 12 4 10 7 147 1 92 10 1"

def ofChar (c : Char) : Direction :=
  if leftwardSet.contains c then .leftward
  else if europeanNumbers.contains c then .europeanNumber
  else if arabicNumbers.contains c then .arabicNumber
  else if attachedMarks.contains c then .attached
  else if neutrals.contains c then .neutral
  else .rightward

end Direction

end Colloquy.Text
