import Colloquy.Text.CodeSet

/-!
Text in which marks are merged with letters as far as possible.  The tables go as far as names of
hosts need them: without capital letters and without characters that never stand in such text.
-/

namespace Colloquy.Text.Composition

/-- The marks that interact with others, by a number that tells their place around the letter. -/
private def classTables : List (Nat × String) := [
  (1, "820 5 6555 1 13 7 1001 2 4 3 10 2 3 2 59725 1 24758 5 20905 1 5320 3"), (6, "94192 2"),
  (7, "
    2364 1 127 1 127 1 127 1 127 1 255 1 127 1 890 1 2812 1 177 1 80 1 36219 1 26374 1 184 1 86 1
    107 1 178 1 81 2 265 1 124 1 252 1 246 1 386 1 264 1 1022 1 52231 1"),
  (8, "12441 2"),
  (9, "
    2381 1 127 1 127 1 127 1 127 1 127 1 127 1 127 1 109 2 16 1 124 1 111 1 127 1 201 1 180 2
    1753 2 30 1 157 1 653 1 227 1 101 2 70 2 4491 1 31366 1 37 1 151 1 142 1 108 1 309 1 246 1
    24145 1 1542 1 41 1 14 1 57 1 121 2 139 1 116 1 180 1 98 1 128 3 113 1 127 1 252 1 127 1 118
    1 116 1 269 1 259 2 161 1 83 1 18 1 81 1 421 1 260 2 81 1 425 2 16876 1"),
  (10, "1456 1"), (11, "1457 1"), (12, "1458 1"), (13, "1459 1"), (14, "1460 1"), (15, "1461 1"),
  (16, "1462 1"), (17, "1463 1"), (18, "1464 1 14 1"), (19, "1465 2"), (20, "1467 1"),
  (21, "1468 1"), (22, "1469 1"), (23, "1471 1"), (24, "1473 1"), (25, "1474 1"), (26, "64286 1"),
  (27, "1611 1 676 1"), (28, "1612 1 676 1"), (29, "1613 1 676 1"), (30, "1560 1 53 1"),
  (31, "1561 1 53 1"), (32, "1562 1 53 1"), (33, "1617 1"), (34, "1618 1"), (35, "1648 1"),
  (36, "1809 1"), (84, "3157 1"), (91, "3158 1"), (103, "3640 2"), (107, "3656 4"),
  (118, "3768 2"), (122, "3784 4"), (129, "3953 1"), (130, "3954 1 7 4 2 1"), (132, "3956 1"),
  (202, "801 2 4 2 6823 1"), (214, "7630 1"), (216, "795 1 3101 1 115243 2 7 5"),
  (218, "7674 1 4655 1"),
  (220, "
    790 4 2 5 2 4 2 11 5 4 10 3 3 2 4 4 2 2 566 1 4 1 4 1 6 6 2 1 26 1 143 2 5 1 2 1 131 1 6 1 2
    1 67 1 2 1 2 3 1 2 1 1 3 1 1 1 1 1 1 1 169 1 10 1 91 3 61 3 51 5 15 1 2 1 2 1 3 3 6 1 2 2 87
    1 1477 2 27 1 1 1 142 1 198 1 2221 1 220 1 102 1 53 6 2 1 1 2 2 2 5 1 18 1 8 1 133 1 360 5 2
    4 13 1 212 1 7 1 4 1 41 1 3 1 1 1 744 1 3 4 34875 3 390 1 21362 7 975 1 226 1 1836 1 44 1 171
    1 1043 2 1 3 70 2 3 1 1 4 50 1 1 1 49653 8 7 2 4962 1 256 1 736 7"),
  (222, "1434 1 18 1 5003 1 5875 1"), (224, "12334 2"), (226, "119149 1"),
  (228, "1454 1 4858 1 1357 2 4658 1"),
  (230, "
    768 21 40 3 2 1 3 1 3 3 3 3 4 1 3 1 7 13 275 5 266 4 1 3 2 6 6 2 1 2 2 1 20 1 75 8 59 2 2 5 1
    2 119 7 2 4 1 1 2 2 2 2 67 1 1 2 1 2 3 1 2 1 1 3 1 1 1 1 1 1 1 2 160 7 1 1 34 4 1 9 1 3 1 5
    105 2 3 4 42 5 5 14 2 2 1 2 1 3 6 3 1 2 2 5 81 1 1 2 169 1 1411 2 2 2 981 3 1149 1 348 1 220
    1 93 8 51 5 6 2 4 2 2 5 1 18 3 6 1 4 128 1 1 7 348 3 7 2 4 1 19 1 3 2 198 2 1 7 1 2 4 37 5 1
    2 1 721 2 2 4 3 2 4 1 5 1 1 1 6 1 3070 3 238 32 30831 1 4 10 32 2 80 2 494 18 446 1 1 2 3 2 5
    2 1 1 21342 7 7 2 1350 5 1684 1 40 1 172 1 574 4 65 5 317 2 155 3 1 1 53 1 1 1 379 3 611 7 3
    5 233 1 22225 7 26190 5 32 4 148 3 3515 7 1 17 2 7 1 2 1 5 100 1 160 7 375 1 61 4 511 1 254 1
    244 1 2 1 7 2 5 1 590 6"),
  (232, "789 1 4 1 61 1 6813 1 4661 1 111807 2"), (233, "860 1 2 1 2 1 6809 1"),
  (234, "861 2 1 2 6025 1 737 1")]

private def classes : List (Nat × CodeSet) :=
  classTables.map fun (place, table) => (place, .ofGaps table)

/-- Zero for all characters that start a new cluster. -/
def combiningClass (c : Char) : Nat :=
  match classes.find? (·.2.contains c) with
  | some (place, _) => place
  | none => 0

/-- By the code of a mark, the letters after which it does not stay: it can be merged with the
letter, or with what the letter is without a mark that would come later. -/
private def letterTables : List (Nat × String) := [
  (0x0300, "
    97 1 3 1 3 1 4 2 5 1 1 1 1 1 104 1 7 1 9 1 7 1 6 1 15 1 57 1 83 1 14 1 512 1 3 1 1 1 1 1 5 1
    5 1 3 3 105 1 2 1 6855 2 14 2 14 2 14 2 14 2 14 2 14 2"),
  (0x0301, "
    97 1 1 1 1 1 1 1 1 1 1 6 1 2 1 1 1 1 1 2 103 1 2 3 2 1 4 1 4 2 2 1 3 1 6 1 15 1 57 1 27 1 55
    1 14 1 512 1 3 1 1 1 1 1 5 1 5 1 3 3 103 1 6 1 6853 2 14 2 14 2 14 2 14 2 14 2 14 2"),
  (0x0302, "97 1 1 1 1 1 1 4 4 1 3 1 1 1 1 1 1 2 7718 1 23 1 19 1"),
  (0x0303, "97 1 3 1 3 1 4 2 5 2 2 1 104 1 7 1 9 1 14 1 157 1 14 1"),
  (0x0304, "
    97 1 3 1 1 1 1 1 5 1 5 1 3 1 106 1 1 1 14 2 5 1 238 1 59 1 7 1 385 1 7 1 11 1 114 1 10 1 6643
    1 35 1"),
  (0x0306, "97 1 3 1 1 1 1 1 5 1 5 1 435 1 391 1 7 1 11 1 106 1 4 2 1 1 10 1 6749 1"),
  (0x0307, "97 8 4 4 1 3 2 4 224 1 5 1 7425 1 59246 1 7 1"),
  (0x0308, "
    97 1 3 1 2 2 5 1 4 2 1 3 123 1 117 1 589 1 11 1 106 1 4 4 5 1 4 1 3 1 3 1 1 1 8 1 130 1 15 1"),
  (0x0309, "97 1 3 1 3 1 5 1 5 1 3 1 104 1 7 1 9 1 14 1 157 1 14 1"),
  (0x030A, "97 1 19 1 1 1 1 1"), (0x030B, "111 1 5 1 973 1"),
  (0x030C, "97 1 1 3 1 6 1 2 2 4 4 1 129 1 405 1"), (0x030F, "97 1 3 1 3 1 5 1 2 1 2 1 1023 1"),
  (0x0311, "97 1 3 1 3 1 5 1 2 1 2 1"), (0x0313, "945 1 3 1 1 1 1 1 5 1 1 1 3 1 3 1"),
  (0x0314, "945 1 3 1 1 1 1 1 5 1 1 1 3 1 3 1"),
  (0x031B, "
    111 1 5 1 124 5 2 4 80 1 1 1 1 1 23 1 1 1 1 1 1 1 1 1 96 1 1 1 1 1 1 1 1 1 1 1 48 1 1 1 5 1 1
    1 19 1 1 1 1 1 1 1 7195 1 1 1 1 1 1 1 31 1 1 1 1 1 1 1 1 1 81 1 1 1 1 1 1 1 1 1 1 1 1 1 11 1
    1 1"),
  (0x0323, "
    97 2 1 2 2 2 1 5 2 6 1 2 101 6 2 8 1 6 2 5 1 1 1 1 1 1 11 1 3 1 1 1 1 1 3 1 9 1 3 1 1 1 1 1
    12 1 3 1 5 1 3 1 4 1 1 1 1 1 3 1 3 1 1 1 1 1 3 1 3 1 3 1 1 1 1 1 1 1 1 1 3 1 1 1 2 1 1 1 1 1
    34 1 14 1 29 1 1 1 1 1 1 1 1 1 1 1 1 1 1 1 2 1 1 1 7 1 15 1 1 1 5 1 1 1 1 1 1 1 1 1 1 1 1 1 1
    1 1 1 1 1 1 1 1 1 7 1 7 1 3 1 1 1 1 1 1 1 1 1 7119 1 7 1 9 1 1 1 11 1 3 1 7 1 1 1 13 1 1 1 3
    1 7 1 1 1 1 1 1 1 5 1 7 1 3 1 1 1 3 1 13 1 1 1 1 1 3 1 1 1 1 1 1 1 7 1 1 1 5 3 9 1 1 1 1 1 1
    1 1 1 3 1 1 1 1 1 1 1 5 1 1 1 1 1 1 1 1 1 1 1 3 1 5 1 1 1 1 1 1 1 1 1 3 1 1 1 1 1 1 1 5 1 1 1
    1 1 1 1 1 1 3 1 3 1 1 1"),
  (0x0324, "117 1 131 4 108 1 1 1 1 1 1 1 1 1 98 1 1 1 1 1 1 1 1 1 56 1 1 1 7265 1 1 1 107 1"),
  (0x0325, "
    97 1 126 6 27 1 1 1 202 1 16 1 1 1 25 1 5 1 1 1 35 1 7291 1 1 1 1 1 1 1 1 1 3 1 1 1 1 1 1 1"),
  (0x0326, "115 2 230 1 1 1 3 1 3 1 7419 1 3 1 1 1 3 1 43 1"),
  (0x0327, "
    99 3 1 2 2 2 1 1 3 3 115 4 5 1 21 1 1 1 1 1 1 1 1 1 3 1 1 1 1 1 3 1 1 1 1 1 1 1 3 1 20 1 3 1
    5 1 3 1 12 1 3 1 1 1 1 1 3 1 3 1 129 1 1 1 11 1 3 1 11 1 1 1 9 1 1 1 5 1 1 1 3 1 7147 1 1 1 1
    1 3 1 1 1 1 1 1 1 1 1 5 1 1 1 1 1 1 1 3 1 5 1 1 1 1 1 1 1 1 1 1 1 1 1 7 1 1 1 1 1 1 1 13 1 1
    1 1 1 1 1 1 1 1 1 1 1 1 1 1 1 1 1 1 1 1 1 1 1 36 2 33 1 1 1 1 1 1 1 1 1 1 1 1 1 1 1"),
  (0x0328, "
    97 1 3 1 3 1 5 1 5 1 106 6 2 8 2 5 2 4 4 1 1 1 15 1 1 1 1 1 3 1 13 1 1 1 1 1 31 1 1 1 1 1 23
    1 1 1 1 1 1 1 1 1 47 1 14 1 29 1 1 1 1 1 1 1 1 1 1 1 1 1 1 1 2 1 1 1 25 1 5 1 1 1 1 1 1 1 1 1
    1 1 1 1 1 1 5 1 1 1 15 1 3 1 1 1 1 1 1 1 7119 1 19 1 1 1 1 1 1 1 17 1 1 1 29 1 1 1 1 1 1 1 31
    1 1 1 1 1 1 1 1 1 37 1 1 1 1 1 1 1 1 1 1 1 1 1 1 1 1 1 1 1 1 1 1 1 1 1 1 1 1 1 1 1 1 1 1 1 1
    1 1 1 1 1 1 1 1 1 1 1 1 1 1 1 1 1 1 1 1 1 1 1 1 1 1 1 1 1 1 1 1 1 1 1 1 1 1 1 1 1 1 1 1 1"),
  (0x032D, "
    100 2 6 1 1 1 5 2 114 4 5 1 7 4 18 1 3 1 1 1 1 1 3 1 30 1 3 1 5 1 3 1 28 1 3 1 1 1 1 1 1 1 1
    1 98 1 1 1 1 1 1 1 1 1 28 1 11 1 1 1 13 1 1 1 7155 1 9 1 1 1 45 1 37 1 13 1 1 1 27 1 35 1 1 1
    1 1 1 1 1 1 1 1 33 1"),
  (0x032E, "104 1 188 1 249 1 7171 1 3 1"),
  (0x0330, "
    101 1 3 1 11 1 114 8 9 4 22 1 1 1 1 1 3 1 13 1 1 1 1 1 59 1 1 1 1 1 1 1 1 1 94 1 3 1 1 1 1 1
    1 1 1 1 40 1 1 1 1 1 1 1 9 1 1 1 7165 1 1 1 23 1 73 1 1 1 63 1 1 1 1 1 1 1 1 1 1 1 3 1 29 1"),
  (0x0331, "
    98 1 1 1 3 1 2 2 1 1 3 1 1 1 5 1 118 1 29 1 21 1 20 1 3 1 5 1 3 1 12 1 3 1 11 1 20 1 1 1 1 1
    106 1 15 1 23 1 1 1 11 1 7139 1 7 1 23 1 3 1 9 1 19 1 19 1 17 1 37 1 5 1"),
  (0x0338, "
    60 3 8529 1 1 1 1 1 59 1 1 1 1 1 46 1 4 1 2 1 23 1 1 1 22 1 6 1 1 1 2 1 4 1 19 1 2 2 12 2 2 2
    2 4 4 2 2 2 9 2 15 1 5 2 1 1 6 4"),
  (0x0342, "945 1 5 1 1 1 11 1 3 3 6964 2 30 2 14 2 30 2 14 2"), (0x0653, "1575 1"),
  (0x0654, "1575 1 32 1 1 1 118 1 16 1 2 1"), (0x0655, "1570 2 3 1"), (0x093C, "2344 1 7 1 2 1"),
  (0x09BE, "2503 1"), (0x09D7, "2503 1"), (0x0B3E, "2887 1"), (0x0B56, "2887 1"),
  (0x0B57, "2887 1"), (0x0BBE, "3014 2"), (0x0BD7, "2962 1 51 1"), (0x0C56, "3142 1"),
  (0x0CC2, "3270 1"), (0x0CD5, "3263 1 6 1 3 1"), (0x0CD6, "3270 1"), (0x0D3E, "3398 2"),
  (0x0D57, "3398 1"), (0x0DCA, "3545 1 2 1"), (0x0DCF, "3545 1"), (0x0DDF, "3545 1"),
  (0x102E, "4133 1"), (0x1B35, "6917 1 1 1 1 1 1 1 1 1 3 1 40 1 1 1 1 2 2 1"),
  (0x3099, "
    12358 1 4 1 1 1 1 1 1 1 1 1 1 1 1 1 1 1 1 1 1 1 1 1 1 1 2 1 1 1 1 1 6 1 2 1 2 1 2 1 2 1 33 1
    8 1 4 1 1 1 1 1 1 1 1 1 1 1 1 1 1 1 1 1 1 1 1 1 1 1 2 1 1 1 1 1 6 1 2 1 2 1 2 1 2 1 19 4 10 1"),
  (0x309A, "12399 1 2 1 2 1 2 1 2 1 83 1 2 1 2 1 2 1 2 1"), (0x110BA, "69785 1 1 1 9 1"),
  (0x11127, "69937 2"), (0x1133E, "70471 1"), (0x11357, "70471 1"), (0x113B8, "70594 1"),
  (0x113BB, "70532 1"), (0x113C2, "70539 1 54 1"), (0x113C5, "70539 1 54 1"),
  (0x113C7, "70539 1 54 1"), (0x113C8, "70539 1 54 1"), (0x113C9, "70530 1 13 1 49 1"),
  (0x114B0, "70841 1"), (0x114BA, "70841 1"), (0x114BD, "70841 1"), (0x115AF, "71096 2"),
  (0x11930, "71989 1"), (0x1611E, "90398 1"), (0x1611F, "90398 1 2 2 6 1"),
  (0x16120, "90398 1 2 1"), (0x16121, "90398 1"), (0x16122, "90398 1"), (0x16123, "90398 1"),
  (0x16124, "90398 1"), (0x16125, "90398 1"), (0x16126, "90398 1"), (0x16127, "90398 1"),
  (0x16128, "90398 1"), (0x16129, "90398 1"), (0x16D67, "93539 1 3 1 1 1"),
  (0x16D68, "93539 1 3 1 1 1")]

private def letters : List (Nat × CodeSet) :=
  letterTables.map fun (mark, table) => (mark, .ofGaps table)

/-- The parts of a Hangul syllable, an open syllable being the first two. -/
private def formSyllable (first second : Nat) : Bool :=
  (0x1100 ≤ first && first ≤ 0x1112 && 0x1161 ≤ second && second ≤ 0x1175)
    || (0xAC00 ≤ first && first ≤ 0xD7A3 && (first - 0xAC00) % 28 == 0
      && 0x11A8 ≤ second && second ≤ 0x11C2)

/-- Are the two characters written in another way where text is composed? -/
def composes (first second : Char) : Bool :=
  formSyllable first.toNat second.toNat
    || letters.any fun (mark, set) => mark == second.toNat && set.contains first

/-- Reads on after a letter and some of its marks, of which the last has the class `before`.  Marks
stand in the order of their classes, and one of the same class keeps a mark from its letter. -/
private def composedAfter (letter : Option Char) (before : Nat) : List Char → Bool
  | [] => true
  | c :: rest =>
    let place := combiningClass c
    let ordered := place == 0 || before ≤ place
    let reaches := before == 0 || before < place
    ordered && !(reaches && letter.any (composes · c))
      && composedAfter (if place == 0 then some c else letter) place rest

/-- Is the text as composed as it can be? -/
def isComposed (cs : List Char) : Bool := composedAfter none 0 cs

end Colloquy.Text.Composition
