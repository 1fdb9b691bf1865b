import Colloquy.Text.Blank
import Colloquy.Text.Property

/-!
The further binary properties of characters, and all of them by name.  Names are written in small
letters without separators.
-/

namespace Colloquy.Text.Property

def math : CodeSet :=
  Category.mathSymbol.set.union
    (.ofGaps "
    94 1 881 3 2 1 26 2 2 2 7200 1 27 3 11 1 32 4 24 2 14 2 65 13 4 1 3 2 4 5 18 1 4 1 2 10 1 1
    3 5 6 1 3 2 2 2 1 3 1 6 3 4 5 5 75 5 2 4 1 2 1 2 1 1 1 5 2 2 4 2 4 18 2 2 1 1 1 7 1 1 6 2
    290 4 168 2 1 1 24 1 17 1 445 2 12 9 5 5 5 2 2 2 3 5 14 1 1 1 2 6 24 2 57 1 1 1 29 4 9 2 342
    2 31 10 403 22 63 4 32 2 54371 1 1 1 4 1 211 1 1 1 54465 85 1 71 1 2 2 1 2 2 2 4 1 12 1 1 1
    7 1 65 1 4 2 8 1 7 1 28 1 4 1 5 1 1 3 7 1 340 2 25 1 25 1 31 1 25 1 31 1 25 1 31 1 25 1 31 1
    25 1 8 2 50 5632 4 1 27 1 2 1 1 2 1 1 10 1 4 1 1 1 1 6 1 4 1 1 1 1 1 1 3 1 2 1 1 2 1 1 1 1 1
    1 1 1 1 1 2 1 1 2 4 1 7 1 4 1 4 1 1 1 10 1 17 5 3 1 5 1 17")

def graphemeExtend : CodeSet :=
  (Category.setOf [.enclosingMark, .nonspacingMark]).union
    (.ofGaps "
    2494 1 24 1 358 1 24 1 102 1 24 1 232 1 1 1 4 2 1 2 9 2 103 1 24 1 119 1 15 1 2357 1 30 1
    1024 1 5 1 1 1 5 2 101 1 71 2 1048 1 4129 2 31011 1 108 1 21981 2 4640 1 116 1 264 1 14 1 9
    1 96 1 9 1 2 1 1 3 5 1 224 1 12 1 241 1 262 1 633 1 12 1 1539 1 20654 2 24947 2 6 6 798381
    96")

def graphemeBase : CodeSet :=
  (CodeSet.unions [.ofRange 0xD800 0xDFFF, graphemeExtend, Category.setOf
    [.control, .format, .privateUse, .unassigned, .lineSeparator, .paragraphSeparator]]).compl

def patternSyntax : CodeSet :=
  .ofGaps "
    33 15 10 7 26 4 1 1 26 4 34 7 1 1 1 2 1 1 1 2 4 1 4 1 3 1 23 1 31 1 7960 24 8 15 2 19 1 10
    305 720 160 630 30 1132 512 128 385 3 4 25 15 1 52493 2 261 2"

def patternWhiteSpace : CodeSet :=
  .ofGaps "9 5 18 1 100 1 8072 2 24 2"

def otherIdStart : CodeSet :=
  .ofGaps "6277 2 2193 1 21 1 3948 2"

def otherIdContinue : CodeSet :=
  .ofGaps "183 1 719 1 4065 9 1640 1 1585 2 4333 1 52841 1"

def idStart : CodeSet :=
  .union ((Category.setOf (.letterNumber :: Category.letters)).diff
    (patternSyntax.union patternWhiteSpace)) otherIdStart

def idContinue : CodeSet :=
  .unions [idStart, otherIdContinue, Category.setOf
    [.nonspacingMark, .spacingMark, .decimalNumber, .connectorPunctuation]]

def xidStart : CodeSet :=
  idStart.diff (.ofGaps "
    890 1 2744 1 127 1 8679 2 52161 6 406 2 116 1 1 1 1 1 1 1 1 1 1 1 1 1 1 1 287 2")

def xidContinue : CodeSet :=
  idContinue.diff (.ofGaps "
    890 1 11552 2 52161 6 406 2 116 1 1 1 1 1 1 1 1 1 1 1 1 1 1 1")

def changesWhenLowercased : CodeSet :=
  (uppercase.union Category.titlecaseLetter.set).diff (.ofGaps "
    978 3 7469 1 4 1 3 3 2 3 2 1 3 5 6 1 3 1 3 2 2 2 1 1 10 2 5 1 111290 26 26 26 26 26 26 1 1 2
    2 1 2 2 2 4 1 8 26 26 26 2 1 4 2 8 1 7 27 2 1 4 1 5 1 1 3 7 27 26 26 26 26 26 26 26 26 26 26
    26 30 25 33 25 33 25 33 25 33 25 33 1 6501 26 6 26 6 26")

def changesWhenUppercased : CodeSet :=
  (lowercase.diff (.ofGaps "
    170 1 15 1 125 1 84 1 28 2 14 1 3 1 98 1 18 6 27 1 2 1 1 1 2 3 2 1 4 1 5 2 1 1 2 2 1 7 1 2 1 1 2
    3 6 5 1 1 1 8 2 26 7 2 30 5 149 1 129 1 355 1 39 1 2931 1 3075 121 1 3 1 16 1 49 220 2 1 1 465 1
    13 1 16 13 109 1 3 2 3 1 27 1 4 1 4 1 2 2 8 4 2855 1 2 1 2 7 102 1 31159 2 146 2 62 9 21 1 6 1
    25 1 35 1 1 1 28 3 3 3 821 35 1 7 1 14 23574 1 2 3 1 42 1 9 52319 26 26 7 1 18 26 26 26 4 1 1 1
    7 1 11 26 26 26 26 26 26 26 26 26 26 26 26 26 26 26 26 26 28 28 25 1 6 26 25 1 6 26 25 1 6 26 25
    1 6 26 25 1 6 1 1 1844 10 1 20 6 6 261 62")).union
    (.ofGaps "453 1 2 1 2 1 38 1 7573 8 8 8 8 8 12 1 15 1 47 1")

def changesWhenTitlecased : CodeSet :=
  (changesWhenUppercased.diff (.ofGaps "
    453 1 2 1 2 1 38 1 3805 43 2 3 3720 8 8 8 8 8 12 1 15 1 47 1")).union
    (.ofGaps "452 1 2 1 2 1 38 1")

def changesWhenCasemapped : CodeSet :=
  .unions [changesWhenLowercased, changesWhenUppercased, changesWhenTitlecased]

def changesWhenCasefolded : CodeSet :=
  (changesWhenLowercased.diff (.ofGaps "5024 86")).union
    (.ofGaps "
    181 1 41 1 105 1 53 1 453 1 124 1 13 2 3 2 25 2 3 1 401 1 3696 6 2178 9 529 2 228 8 8 8 8 8
    10 3 2 1 10 3 2 1 42 3 2 1 35704 80 20288 7 12 5")

def emojiPresentation : CodeSet :=
  .ofGaps "
    8986 2 205 4 3 1 2 1 521 2 21 2 50 12 43 1 19 1 13 1 8 2 17 2 5 2 8 1 5 1 21 1 7 2 1 1 4 1 2
    1 7 1 4 2 28 1 35 1 1 1 4 3 1 1 61 3 24 1 14 1 859 2 51 1 4 1 115886 1 202 1 190 1 2 10 75
    26 1 1 24 1 20 1 2 5 1 3 21 2 174 33 12 9 1 70 1 22 12 43 4 5 12 17 3 1 3 71 1 1 1 187 2 63
    13 4 1 24 18 1 26 2 13 1 86 85 48 70 6 1 3 3 2 3 4 4 11 2 7 9 227 12 4 1 283 47 1 10 1 185
    112 13 3 10 5 56 7 15 2 11 6 9"

def emoji : CodeSet :=
  emojiPresentation.union
    (.ofGaps "
    35 1 6 1 5 10 111 1 4 1 8077 1 12 1 216 1 22 1 90 6 15 2 381 1 166 1 29 3 1 2 5 3 199 1 231
    2 10 1 9 1 58 2 3 5 9 1 2 1 6 1 4 1 2 1 1 2 2 1 3 1 3 2 8 3 5 1 1 1 28 2 2 1 1 2 1 1 18 1 2
    1 19 1 1 4 1 1 1 2 3 1 6 1 8 2 22 1 6 1 1 1 1 1 21 1 6 2 2 1 2 3 8 1 5 2 2 2 1 1 2 1 1 1 1 1
    6 1 3 1 17 2 15 1 2 1 27 2 60 1 402 2 463 3 1320 1 12 1 601 1 1 1 114390 2 12 2 130 1 52 1
    233 1 2 9 9 1 70 1 24 2 1 3 2 2 43 4 5 12 19 1 1 1 1 1 71 1 1 1 187 1 75 2 36 2 2 7 13 1 2 4
    2 1 20 1 2 1 8 2 9 1 5 3 12 3 8 3 2 1 1 1 4 1 6 1 3 1 6 1 208 1 1 3 16 6 3 1 6 1 2 1")

def emojiComponent : CodeSet :=
  .ofGaps "
    35 1 6 1 5 10 8147 1 213 1 56619 1 62422 26 507 5 1456 4 788076 96"

def emojiModifierBase : CodeSet :=
  .ofGaps "
    9757 1 219 1 16 4 117879 1 60 3 2 1 2 3 117 2 2 11 21 19 3 1 4 3 1 3 7 1 1 1 24 1 201 2 4 1
    21 1 4 2 174 3 3 5 83 1 16 3 9 1 11 1 575 1 2 1 8 8 6 1 9 10 2 3 56 1 61 2 1 2 1 1 17 3 1 13
    229 3 42 9"

def extendedPictographic : CodeSet :=
  .ofGaps "
    169 1 4 1 8077 1 12 1 216 1 22 1 90 6 15 2 367 2 12 1 95 1 70 1 25 11 4 3 199 1 231 2 10 1 9
    1 58 4 1 6 1 12 1 114 10 118 2 11 1 1 1 1 6 1 3 1 6 1 10 2 15 1 2 1 4 1 1 1 4 3 1 1 11 5 45
    3 9 1 14 1 14 1 372 2 463 3 19 2 51 1 4 1 1242 1 12 1 601 1 1 1 114022 256 13 3 31 1 60 6 12
    2 14 1 2 10 18 57 27 15 10 1 20 1 2 9 1 4 9 434 5 318 8 266 48 128 116 12 85 43 12 4 56 8 10
    6 40 8 30 82 12 47 1 10 1 441 256 1022"

def bidiMirrored : CodeSet :=
  .ofGaps "
    40 2 18 1 1 1 28 1 1 1 29 1 1 1 45 1 15 1 3710 4 1885 2 2460 2 10 2 54 2 14 2 177 1 192 4 3
    6 3 1 3 2 3 4 1 4 1 1 1 1 4 9 5 1 1 18 5 4 9 2 1 1 1 8 1 32 2 4 5 1 9 2 2 19 5 2 9 5 2 2 4
    24 2 16 8 4 20 2 7 2 1085 14 74 1 2 4 1 2 1 3 5 4 5 3 3 14 403 22 2 6 1 14 8 1 7 6 3 1 4 5 1
    2 2 5 4 1 1 3 2 2 10 6 2 2 12 19 1 4 2 1 1 1 2 1 1 4 5 2 6 3 24 2 11 2 4 4 1 2 2 2 4 43 2 8
    1 40 5 1 1 1 3 5 5 3 4 1 3 5 1 1 256 1 515 4 3 2 1 2 14 2 2 10 43 8 427 10 2 8 52797 6 5 2
    162 2 18 1 1 1 28 1 1 1 29 1 1 1 1 2 1 2 55159 1 57 1 57 1 57 1 57 1"

def diacritic : CodeSet :=
  .ofGaps "
    94 1 1 1 71 1 6 1 4 1 2 2 503 159 1 8 5 6 17 2 4 1 9 2 253 5 209 1 55 17 1 27 1 1 1 2 1 1 134 8
    4 2 134 2 4 2 3 3 67 27 91 11 58 11 34 2 126 8 41 10 16 28 61 1 16 1 3 4 28 1 74 1 16 1 110 1 16
    1 110 1 16 1 47 3 60 1 16 1 7 1 119 1 110 1 16 1 110 1 16 1 109 2 16 1 124 1 111 1 12 6 1 1 107
    1 13 5 75 2 27 1 1 1 1 1 4 2 66 3 1 2 62 1 112 1 1 2 40 2 4 5 25 7 1 1 10 2 705 3 948 2 30 1 148
    11 9 1 347 3 292 1 20 8 2 1 48 15 2 11 104 1 15 1 38 9 54 2 58 1 11 2 66 2 64 6 82 25 4 1 6 1 2
    3 50 63 89 12 37 11 445 1 1 3 11 3 13 3 13 3 13 2 3312 3 317 1 506 6 105 4 95 1 30066 1 12 2 1 1
    28 2 82 2 14 34 102 3 109 2 12 1 37 1 151 1 27 18 57 4 36 1 95 1 12 1 36 1 149 3 65 4 51 1 100 5
    9 3 128 2 20272 1 769 16 270 1 1 1 47 1 45 2 67 1 764 1 1183 6 1 42 1 9 637 3 4 1 165 2 571 6 38
    1 26 5 399 3 70 11 49 4 192 1 41 1 72 2 120 2 62 1 76 1 9 3 104 2 178 2 80 2 16 1 24 7 3 5 89 3
    1 2 13 2 95 1 3 1 123 2 251 2 126 1 118 2 115 1 269 2 258 2 4 1 156 1 83 1 18 1 81 1 421 1 258 1
    1 2 81 1 425 2 23 1 5356 15 11481 1 2496 5 59 7 564 2 546 17 80 2 16382 4 1 7 1 2 7937 46 2 23
    544 3 3 6 8 8 2 7 30 4 3714 62 194 7 375 1 61 4 766 2 736 7 109 3 1 3"

def extender : CodeSet :=
  .ofGaps "
    183 1 536 2 878 1 441 1 630 1 137 1 89 1 752 1 127 1 2371 1 56 1 611 1 398 1 68 1 5001 1 43
    5 103 2 93 3 28438 1 1526 1 962 1 22 1 137 1 108 1 21 2 21627 1 2064 2 1483 1 27 1 4 1 1223
    1 293 1 116 2 498 3 1231 1 20649 2 1180 2 1 1 29016 2 1201 1 852 3"

def defaultIgnorable : CodeSet :=
  .ofGaps "
    173 1 673 1 716 1 2882 2 1619 2 85 5 2043 5 26 5 49 16 4340 1 52379 16 239 1 160 1 79 9
    48295 4 5327 8 798341 4096"

def sentenceTerminal : CodeSet :=
  .ofGaps "
    33 1 12 1 16 1 1353 1 147 3 180 1 43 3 246 1 61 1 1 1 3 2 293 2 1764 2 790 1 4 2 773 1 198 2
    157 2 45 1 5 1 314 2 354 4 162 2 10 2 2 2 29 3 187 2 65 2 932 1 23 2 9 3 3247 3 306 1 13 1
    22 2 429 1 29948 1 270 2 227 1 3 1 382 2 86 2 95 1 152 2 147 3 144 2 249 1 21030 1 2 2 59 1
    3 2 169 1 12 1 16 1 65 1 2804 2 1277 5 44 4 189 2 117 4 127 3 129 2 6 1 16 2 88 2 1 2 108 1
    298 2 117 2 373 2 5 15 105 2 249 3 517 1 1 1 251 2 87 2 420 2 692 2 74 2 19241 2 133 1 65 2
    11 1 553 2 296 1 19974 1 7656 1"

def quotationMark : CodeSet :=
  .ofGaps "
    34 1 4 1 131 1 15 1 8028 8 25 2 3591 1 457 4 13 3 52769 4 189 1 4 1 90 2"

def softDotted : CodeSet :=
  .ofGaps "
    105 2 196 1 281 1 30 1 52 1 20 1 320 1 98 1 1 1 6409 1 51 1 13 1 3 1 132 1 157 1 421 1 214 2
    2866 1 108453 2 50 2 50 2 50 2 50 2 50 2 50 2 50 2 50 2 50 2 50 2 50 2 50 2 2182 1 305 2 26
    1"

def unifiedIdeograph : CodeSet :=
  .ofGaps "
    13312 6592 64 20992 23054 2 1 1 1 2 10 1 1 1 1 2 2 3 67030 42720 32 4154 6 222 2 5762 14
    7473 15 622 4514 4939 5 4192"

def noncharacter : CodeSet :=
  .ofGaps "
    64976 32 526 2 65534 2 65534 2 65534 2 65534 2 65534 2 65534 2 65534 2 65534 2 65534 2 65534
    2 65534 2 65534 2 65534 2 65534 2 65534 2 65534 2"

def terminalPunctuation : CodeSet :=
  sentenceTerminal.union
    (.ofGaps "
    44 1 13 2 834 1 8 1 571 1 72 1 14 1 231 8 1 1 235 1 55 6 2 1 1 3 33 1 1531 2 172 1 4 6 1102
    1 1 4 900 3 232 1 3 1 39 1 1 2 2 1 852 1 223 3 4609 1 10 1 1 2 433 1 29948 1 270 1 230 3 720
    1 279 1 21360 2 2 2 182 1 13 2 72 1 1082 1 48 1 1158 1 199 1 464 6 68 6 89 4 1196 5 492 1
    530 1 12 2 360 2 1243 2 416 1 45 1 2046 5 18116 1 861 1 27631 1 1 2")

def ideographic : CodeSet :=
  unifiedIdeograph.union
    (.ofGaps "
    12294 2 25 9 14 3 51397 270 2 1 1 1 2 10 1 1 1 1 2 2 3 68 2 106 29962 1 27 6136 8 1238 41 10
    9319 396 83204 542")

def dash : CodeSet :=
  Category.dashPunctuation.set.union
    (.ofGaps "8275 1 39 1 15 1 390 1")

def emojiModifier : CodeSet :=
  .ofGaps "127995 5"

def regionalIndicator : CodeSet :=
  .ofGaps "127462 26"

/-- Marks that are written before the digits of a number and stretch over all of them. -/
def prependedConcatenationMark : CodeSet :=
  .ofGaps "1536 6 215 1 49 1 384 2 80 1 67546 1 15 1"

def graphemeLink : CodeSet :=
  .ofGaps "
    2381 1 127 1 127 1 127 1 127 1 127 1 127 1 127 1 109 2 16 1 124 1 111 1 127 1 201 1 180 2 1753
    2 30 1 157 1 653 1 227 1 101 2 70 2 4491 1 31366 1 37 1 151 1 142 1 108 1 309 1 246 1 24145 1
    1542 1 41 1 14 1 57 1 121 2 139 1 116 1 180 1 98 1 128 3 113 1 127 1 252 1 127 1 118 1 116 1
    269 1 259 2 161 1 83 1 18 1 81 1 421 1 260 2 81 1 425 2 16876 1"

def modifierCombiningMark : CodeSet :=
  .ofGaps "1620 2 2 1 131 1 6 1 3 2 481 2 1 3 3 1 31 1"

def hyphen : CodeSet :=
  .ofGaps "45 1 127 1 1244 1 4731 1 2057 2 3589 1 739 1 52583 1 169 1 87 1"

def idCompatMathStart : CodeSet :=
  .ofGaps "8706 1 4 1 22 1 111778 1 25 1 31 1 25 1 31 1 25 1 31 1 25 1 31 1 25 1"

def idCompatMathContinue : CodeSet :=
  idCompatMathStart.union (.ofGaps "178 2 5 1 8118 1 3 11 1 15")

/-!
The code points by which a property goes beyond what follows from the category.
-/

def otherAlphabetic : CodeSet :=
  alphabetic.diff (Category.setOf (.letterNumber :: Category.letters))

def otherLowercase : CodeSet := lowercase.diff Category.lowercaseLetter.set

def otherUppercase : CodeSet := uppercase.diff Category.uppercaseLetter.set

def otherMath : CodeSet := math.diff Category.mathSymbol.set

def otherGraphemeExtend : CodeSet :=
  graphemeExtend.diff (Category.setOf [.nonspacingMark, .enclosingMark])

def otherDefaultIgnorable : CodeSet :=
  .ofGaps "847 1 3599 2 1619 2 2223 1 4350 1 52795 1 79 9 851975 1 1 30 96 128 240 3600"

def named : List (List String × CodeSet) := [
  (["asciihexdigit", "ahex"], .ofGaps "48 10 7 6 26 6"),
  (["alphabetic", "alpha"], alphabetic),
  (["bidicontrol", "bidic"], .ofGaps "1564 1 6641 2 26 5 55 4"),
  (["bidimirrored", "bidim"], bidiMirrored),
  (["caseignorable", "ci"], caseIgnorable),
  (["cased"], cased),
  (["changeswhencasefolded", "cwcf"], changesWhenCasefolded),
  (["changeswhencasemapped", "cwcm"], changesWhenCasemapped),
  (["changeswhenlowercased", "cwl"], changesWhenLowercased),
  (["changeswhentitlecased", "cwt"], changesWhenTitlecased),
  (["changeswhenuppercased", "cwu"], changesWhenUppercased),
  (["dash"], dash),
  (["defaultignorablecodepoint", "di"], defaultIgnorable),
  (["deprecated", "dep"], .ofGaps "329 1 1321 1 2307 1 1 1 2089 2 2245 6 697 2 908502 1"),
  (["diacritic", "dia"], diacritic),
  (["emoji"], emoji),
  (["emojicomponent", "ecomp"], emojiComponent),
  (["emojimodifier", "emod"], emojiModifier),
  (["emojimodifierbase", "ebase"], emojiModifierBase),
  (["emojipresentation", "epres"], emojiPresentation),
  (["extendedpictographic", "extpict"], extendedPictographic),
  (["extender", "ext"], extender),
  (["graphemebase", "grbase"], graphemeBase),
  (["graphemeextend", "grext"], graphemeExtend),
  (["graphemelink", "grlink"], graphemeLink),
  (["hexdigit", "hex"], .ofGaps "48 10 7 6 26 6 65193 10 7 6 26 6"),
  (["hyphen"], hyphen),
  (["idcompatmathcontinue"], idCompatMathContinue),
  (["idcompatmathstart"], idCompatMathStart),
  (["idsbinaryoperator", "idsb"], .ofGaps "12272 2 2 10 497 1"),
  (["idstrinaryoperator", "idst"], .ofGaps "12274 2"),
  (["idsunaryoperator", "idsu"], .ofGaps "12286 2"),
  (["idcontinue", "idc"], idContinue),
  (["idstart", "ids"], idStart),
  (["ideographic", "ideo"], ideographic),
  (["joincontrol", "joinc"], joinControl),
  (["logicalorderexception", "loe"], .ofGaps "3648 5 123 5 2800 3 2 1 37114 2 2 1 1 2"),
  (["lowercase", "lower"], lowercase),
  (["math"], math),
  (["modifiercombiningmark", "mcm"], modifierCombiningMark),
  (["noncharactercodepoint", "nchar"], noncharacter),
  (["otheralphabetic", "oalpha"], otherAlphabetic),
  (["otherdefaultignorablecodepoint", "odi"], otherDefaultIgnorable),
  (["othergraphemeextend", "ogrext"], otherGraphemeExtend),
  (["otheridcontinue", "oidc"], otherIdContinue),
  (["otheridstart", "oids"], otherIdStart),
  (["otherlowercase", "olower"], otherLowercase),
  (["othermath", "omath"], otherMath),
  (["otheruppercase", "oupper"], otherUppercase),
  (["patternsyntax", "patsyn"], patternSyntax),
  (["patternwhitespace", "patws"], patternWhiteSpace),
  (["prependedconcatenationmark", "pcm"], prependedConcatenationMark),
  (["quotationmark", "qmark"], quotationMark),
  (["radical"], .ofGaps "11904 26 1 89 12 214"),
  (["regionalindicator", "ri"], regionalIndicator),
  (["sentenceterminal", "sterm"], sentenceTerminal),
  (["softdotted", "sd"], softDotted),
  (["terminalpunctuation", "term"], terminalPunctuation),
  (["unifiedideograph", "uideo"], unifiedIdeograph),
  (["uppercase", "upper"], uppercase),
  (["variationselector", "vs"], .ofGaps "6155 3 1 1 58864 16 852720 240"),
  (["whitespace", "wspace", "space"], .ofRanges blankRanges),
  (["xidcontinue", "xidc"], xidContinue),
  (["xidstart", "xids"], xidStart)]

end Colloquy.Text.Property
