import Colloquy.Text.Property.Named

/-!
Properties by Unicode 17, the version that text goes by outside of patterns: those of version 16,
by which patterns go, with the characters that have been added since.
-/

namespace Colloquy.Text.Property.Current

def unassigned : CodeSet :=
  Category.unassigned.set.diff (.ofGaps "
    2191 1 972 1 127 1 3570 15 2 12 1493 1 2772 1 31799 2 2 1 1 1 28 1 21457 16 445 2 54 7 2929 26
    1387 3 8 9 33 2 3172 8 584 44 4 10 20662 25 2 25 286 5 6145 8 1289 22 97 115 16135 3 445 23 15
    17 6095 31 1 22 8 2 4056 1 158 4 341 9 379 4 50 1 3 1 57 1 4 1 28 1 4 1 266 1 47935 6 5986 12
    21762 4298")

def alphabetic : CodeSet :=
  Property.alphabetic.union (.ofGaps "
    2191 1 972 1 127 1 39665 2 2 1 1 1 28 1 24910 26 1387 3 50 2 3172 8 584 44 20676 25 2 25 286 5
    6145 8 1289 22 97 115 22733 31 1 22 8 2 53306 6 5986 12 21762 4298")

def number : CodeSet :=
  (Category.setOf Category.numbers).union (.ofGaps "73184 10 21002 3")

/-- The glottal stop U+0295 has become a letter without case. -/
def cased : CodeSet :=
  (Property.cased.union (.ofGaps "42958 2 2 1 1 1 28 1 50862 25 2 25")).diff
    (.ofRange 0x0295 0x0295)

def caseIgnorable : CodeSet :=
  Property.caseIgnorable.union (.ofGaps "
    6863 15 2 12 36101 1 26323 1 52 2 3172 1 1 3 1 1 626 1 21016 2 30447 1 2 1 7 2 5 1 9 1")

private def newNonspacingMark : CodeSet :=
  .ofGaps "6863 15 2 12 62478 2 3172 1 1 3 1 1 52092 1 2 1 7 2 5 1"

def graphemeExtend : CodeSet :=
  Property.graphemeExtend.union newNonspacingMark

/-- Marks that take no room of their own. -/
def nonspacingMark : CodeSet :=
  (Category.setOf [.nonspacingMark, .enclosingMark]).union newNonspacingMark

def mark : CodeSet :=
  .unions [nonspacingMark, Category.spacingMark.set, .ofGaps "72545 1 3 1 1 1"]

end Colloquy.Text.Property.Current
