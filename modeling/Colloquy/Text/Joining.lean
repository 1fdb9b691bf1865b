import Colloquy.Text.Property.Current

/-!
Letters of scripts in which letters are joined, by the sides on which they can be.
-/

namespace Colloquy.Text.Joining

private def dual : CodeSet :=
  .ofGaps "
    1568 1 5 1 1 1 1 5 4 13 1 7 1 2 35 2 9 15 18 38 1 2 9 1 1 1 1 2 40 3 2 1 18 3 5 4 1 9 1 1 1 1 1
    2 31 11 3 15 2 4 1 1 2 3 2 6 74 33 86 5 2 1 1 10 1 1 10 1 1 4 2 1 29 1 2 5 1 1 16 10 5 2 2 6 1
    15 3902 1 24 89 14 34 1 1 36757 50 25166 5 14 4 1 5 1 3 10 4 145 1 1 1 3 3 1 2 1 1 2 1 28 2 338
    33 1 1 415 2 1 2 104 3 1 17 12 3 28 4 2 12 46 1 1 2 4 1 2 2 1 2 1 1 2 1 5 1 55639 34"

/-- Letters that can be joined to the one that follows. -/
def forward : CodeSet :=
  dual.union (.ofGaps "43122 1 25178 1 9 1 552 1 714 1")

/-- Letters that can be joined to the one before. -/
def backward : CodeSet :=
  dual.union (.ofGaps "
    1570 4 1 1 1 1 5 4 21 1 40 3 20 18 38 1 2 9 1 1 1 1 2 2 1 1 24 2 32 1 4 5 4 1 9 1 1 1 1 1 2 1
    29 1 11 3 15 2 4 1 1 2 3 2 198 1 5 2 1 1 10 1 1 3 14 1 1 2 5 19 11 1 27 3 1 1 2 2 6 1 66059 1 1
    1 1 2 3 5 10 1 3 1 2 1 10 1 145 1 1 3 3 1 2 1 1 2 1 1 23 4 373 1 415 1 112 1 32 1 31 2 62 3 2 2
    2 1 4 2 5 1")

/-- Marks that letters are joined across. -/
def transparent : CodeSet :=
  Property.Current.nonspacingMark.union (.ofRange 0x1E94B 0x1E94B)

end Colloquy.Text.Joining
