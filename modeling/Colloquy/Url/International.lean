import Colloquy.Text.Composition
import Colloquy.Text.Direction
import Colloquy.Text.Joining
import Colloquy.Text.Pieces
import Colloquy.Url.Punycode

/-!
Names of hosts whose labels stand for text beyond ASCII.  Such a label begins with `xn--`, and must
spell nothing but characters that a name may hold.
-/

namespace Colloquy.Url.International

open Text (CodeSet Direction)

/-- Characters that are other forms of a letter or of a sequence of letters, and a few signs. -/
private def otherForms : CodeSet :=
  .ofGaps "
    168 1 1 1 4 1 2 3 3 3 1 3 116 1 12 1 133 1 2 1 2 1 38 1 188 9 31 6 2 5 91 2 1 2 47 1 5 1 3 1 5
    2 1 1 74 3 29 1 642 4 735 8 124 2 1 1 83 1 2 1 34 3 2 1 253 2 725 1 127 1 40 2 46 1 54 1 9 1 4
    1 4 1 4 1 12 1 9 1 1 5 7 1 17 1 9 1 4 1 4 1 4 1 12 1 322 1 3119 3 1 11 1 18 1 28 13 1 34 37 433
    1 1 1 1 1 1 1 1 1 1 1 1 1 63 5 11 3 3 1 9 3 3 1 9 3 13 2 18 1 5 1 12 3 12 2 1 2 4 1 1 1 8 3 13
    1 24 2 2 27 1 13 11 1 87 4 1 3 1 11 1 2 2 5 2 3 1 1 3 1 3 2 1 3 1 7 1 6 4 5 6 16 16 16 9 1 162
    2 1 2 248 2 309 86 26 27 1313 1 103 3 101 1 415 2 241 1 303 1 83 1 12 214 26 16 2 1 51 1 1 3 96
    2 2 1 95 1 49 51 1 42 3 14 79 1 16 31 1 40 8 47 1 384 29340 2 210 1 128 4 3 2 866 4 9 1 19862
    270 2 1 1 1 2 10 1 1 1 1 2 2 3 68 2 106 67 1 1 24 1 5 1 1 1 2 1 2 1 108 33 363 18 64 2 54 40 13
    19 10 22 21 2 12 1 19 1 4 4 3 1 1 1 135 4 32 26 101 1 30 3 6 2 6 2 6 2 3 3 7 1 7 13 2 1923 5 1
    42 1 9 50459 36 1124 7 86 6 575 85 1 71 1 2 2 1 2 2 2 4 1 12 1 1 1 7 1 65 1 4 2 8 1 7 1 28 1 4
    1 5 1 1 3 7 1 340 2 292 2 50 2096 62 3474 4 1 27 1 2 1 1 2 1 1 10 1 4 1 1 1 1 6 1 4 1 1 1 1 1 1
    3 1 2 1 1 2 1 1 1 1 1 1 1 1 1 1 2 1 1 2 4 1 7 1 4 1 4 1 1 1 10 1 17 5 3 1 5 1 17 580 11 5 31 1
    32 26 3 35 1 111 3 13 44 4 9 7 2 2462 10 64518 542"

/-- Capital letters that are too new for the tables of patterns. -/
private def newCapitals : CodeSet :=
  .ofGaps "42958 1 3 1 1 1 50891 25"

/-- Names hold visible characters in one form only, and no capital letters.  The sharp s, the final
sigma and the joiners are let in although they can be lost when text is compared without case. -/
private def nameCharacters : CodeSet :=
  (CodeSet.unions [
    Text.Category.setOf ([.control, .format, .privateUse] ++ Text.Category.separators),
    Text.Property.Current.unassigned, Text.Property.defaultIgnorable,
    Text.Property.changesWhenCasefolded, newCapitals, otherForms]).compl.union
  (.ofRanges [(0xDF, 0xDF), (0x3C2, 0x3C2), (0x200C, 0x200D)])

private def isNameCharacter (c : Char) : Bool :=
  c.toNat < 0x80 || nameCharacters.contains c

/-- Beside marks that letters are joined across, is the nearest character in the set? -/
private def nearestIn (set : CodeSet) (cs : List Char) : Bool :=
  match cs.dropWhile Text.Joining.transparent.contains with
  | c :: _ => set.contains c
  | [] => false

/-- A joiner stands after a sign that links consonants, or, if it is meant to keep letters apart,
between two that would be joined.  `before` holds the characters already seen, the nearest
first. -/
private def joinersFit (before : List Char) : List Char → Bool
  | [] => true
  | c :: rest =>
    let linked := before.head?.any Text.Property.graphemeLink.contains
    let apart := nearestIn Text.Joining.forward before && nearestIn Text.Joining.backward rest
    let fits :=
      if c = '\u200C' then linked || apart
      else if c = '\u200D' then linked
      else true
    fits && joinersFit (c :: before) rest

/-- The text that a label stands for, or nothing if it is not well spelled. -/
def label? (label : List Char) : Option (List Char) :=
  match label with
  | 'x' :: 'n' :: '-' :: '-' :: spelled =>
    if label.getLast? = some '-' then none
    else (Punycode.decode? spelled).filter fun text =>
      text.all isNameCharacter && Text.Composition.isComposed text && joinersFit [] text
        && !text.head?.any Text.Property.Current.mark.contains
  | _ => some label

/-!
Names with characters that run to the left.
-/

/-- The first character tells in which direction a label runs, and no sign may stand at an end.  One
that runs to the right holds neither characters that run to the left nor Arabic numbers; one that
runs to the left holds no characters that run to the right, and numbers of one kind only. -/
private def directionsFit (label : List Direction) : Bool :=
  match label with
  | [] => true
  | first :: rest =>
    let last := (rest.reverse.dropWhile (· = .attached)).head?
    match first with
    | .rightward =>
      rest.all (· ∉ [.leftward, .arabicNumber])
        && last.all (· ∈ [.rightward, .europeanNumber])
    | .leftward =>
      rest.all (· ≠ .rightward)
        && last.all (· ∈ [.leftward, .europeanNumber, .arabicNumber])
        && !(Direction.europeanNumber ∈ rest && Direction.arabicNumber ∈ rest)
    | _ => false

def isWellSpelled (name : List Char) : Bool :=
  match (Text.pieces '.' name).mapM label? with
  | none => false
  | some labels =>
    let labels := labels.map (·.map Direction.ofChar)
    let mixed := labels.any (·.any (· ∈ [.leftward, .arabicNumber]))
    !mixed || labels.all directionsFit

end Colloquy.Url.International
