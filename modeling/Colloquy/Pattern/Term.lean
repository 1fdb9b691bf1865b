import Colloquy.Span
import Colloquy.Text.CodeSet

/-!
Patterns as they are written.  What a part means may depend on the flags in force where it stands.
-/

namespace Colloquy.Pattern

/-- A character that stands for itself.  `byte` tells that it is written as two hexadecimal
digits, which may name a byte. -/
structure Literal where
  char : Char
  byte : Bool
  span : Span
deriving DecidableEq, Repr

inductive Shorthand where
  | digit
  | space
  | word
deriving DecidableEq, Repr

inductive Assertion where
  | lineStart
  | lineStop
  | textStart
  | textStop
  | wordBoundary
  | notWordBoundary
  | wordStart
  | wordStop
  | wordStartHalf
  | wordStopHalf
deriving DecidableEq, Repr

/-- A property by its name alone, or one value of a property. -/
inductive PropertyName where
  | alone (name : String)
  | valued (name value : String)
deriving DecidableEq, Repr

/-- The smallest parts.  Those with a `negated` mark stand for a set of characters or for its
complement. -/
inductive Atom where
  | literal (literal : Literal)
  | anyCharacter (span : Span)
  | assertion (assertion : Assertion) (span : Span)
  | shorthand (shorthand : Shorthand) (negated : Bool) (span : Span)
  | property (name : PropertyName) (negated : Bool) (span : Span)
deriving DecidableEq, Repr

def Atom.span : Atom → Span
  | .literal l => l.span
  | .anyCharacter span => span
  | .assertion _ span => span
  | .shorthand _ _ span => span
  | .property _ _ span => span

inductive SetOperation where
  | intersection
  | difference
  | symmetricDifference
deriving DecidableEq, Repr

inductive Bracket where
  | empty
  | literal (literal : Literal)
  | range (first last : Literal)
  | shorthand (shorthand : Shorthand) (negated : Bool) (span : Span)
  | property (name : PropertyName) (negated : Bool) (span : Span)
  | ascii (set : Text.CodeSet) (negated : Bool) (span : Span)
  | nested (inner : Bracket) (negated : Bool) (span : Span)
  | union (first second : Bracket)
  | combined (operation : SetOperation) (left right : Bracket)
deriving DecidableEq, Repr

inductive Flag where
  | caseInsensitive
  | multiLine
  | dotMatchesNewline
  | swapGreed
  | unicode
  | carriageReturns
  | extended
deriving DecidableEq, Repr

def Flag.ofChar? : Char → Option Flag
  | 'i' => some .caseInsensitive
  | 'm' => some .multiLine
  | 's' => some .dotMatchesNewline
  | 'U' => some .swapGreed
  | 'u' => some .unicode
  | 'R' => some .carriageReturns
  | 'x' => some .extended
  | _ => none

abbrev FlagChanges := List (Flag × Bool)

/-- The flags that `flags` sets hold up to the end of the group around it. -/
inductive Term where
  | empty
  | flags (changes : FlagChanges)
  | atom (atom : Atom)
  | bracket (inner : Bracket) (negated : Bool) (span : Span)
  | repeated (body : Term) (least : Nat) (most : Option Nat)
  | group (changes : FlagChanges) (body : Term)
  | sequence (first second : Term)
  | choice (first second : Term)
deriving DecidableEq, Repr

/-- The sets that have a name of their own within brackets, all of ASCII characters. -/
def asciiSet? (name : String) : Option Text.CodeSet :=
  let digits := (0x30, 0x39)
  let upper := (0x41, 0x5A)
  let lower := (0x61, 0x7A)
  match name with
  | "alnum" => some (.ofRanges [digits, upper, lower])
  | "alpha" => some (.ofRanges [upper, lower])
  | "ascii" => some (.ofRange 0 0x7F)
  | "blank" => some (.ofRanges [(0x09, 0x09), (0x20, 0x20)])
  | "cntrl" => some (.ofRanges [(0, 0x1F), (0x7F, 0x7F)])
  | "digit" => some (.ofRanges [digits])
  | "graph" => some (.ofRange 0x21 0x7E)
  | "lower" => some (.ofRanges [lower])
  | "print" => some (.ofRange 0x20 0x7E)
  | "punct" => some (.ofRanges [(0x21, 0x2F), (0x3A, 0x40), (0x5B, 0x60), (0x7B, 0x7E)])
  | "space" => some (.ofRanges [(0x09, 0x0D), (0x20, 0x20)])
  | "upper" => some (.ofRanges [upper])
  | "word" => some (.ofRanges [digits, upper, (0x5F, 0x5F), lower])
  | "xdigit" => some (.ofRanges [digits, (0x41, 0x46), (0x61, 0x66)])
  | _ => none

end Colloquy.Pattern
