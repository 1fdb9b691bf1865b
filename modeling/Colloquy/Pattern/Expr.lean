import Colloquy.Pattern.Groups
import Colloquy.Pattern.Property
import Colloquy.Text.CaseFold
import Colloquy.Text.Word

/-!
What patterns mean: expressions over sets of characters and tests of the place between two
characters, with all flags worked in.  Without the flag for Unicode only ASCII characters can be
told apart from each other, and nothing may stand for a part of a character.
-/

namespace Colloquy.Pattern

open Text (CodeSet)

/-- Tests of a place.  `ascii` tells that only ASCII characters count as word characters. -/
inductive Look where
  | start
  | stop
  | lineStart
  | lineStop
  | lineStartCarriage
  | lineStopCarriage
  | boundary (ascii : Bool)
  | notBoundary (ascii : Bool)
  | wordStart (ascii : Bool)
  | wordStop (ascii : Bool)
  | wordStartHalf (ascii : Bool)
  | wordStopHalf (ascii : Bool)
deriving DecidableEq, Repr

inductive Expr where
  | empty
  | one (set : CodeSet)
  | look (look : Look)
  | repeated (body : Expr) (least : Nat) (most : Option Nat)
  | sequence (first second : Expr)
  | choice (first second : Expr)
deriving DecidableEq, Repr

structure Flags where
  caseInsensitive : Bool := false
  multiLine : Bool := false
  dotMatchesNewline : Bool := false
  unicode : Bool := true
  carriageReturns : Bool := false
deriving DecidableEq, Repr

namespace Flags

def set (flags : Flags) (flag : Flag) (value : Bool) : Flags :=
  match flag with
  | .caseInsensitive => { flags with caseInsensitive := value }
  | .multiLine => { flags with multiLine := value }
  | .dotMatchesNewline => { flags with dotMatchesNewline := value }
  | .unicode => { flags with unicode := value }
  | .carriageReturns => { flags with carriageReturns := value }
  | .swapGreed => flags
  | .extended => flags

def change (flags : Flags) (changes : FlagChanges) : Flags :=
  changes.foldl (fun flags (flag, value) => flags.set flag value) flags

private def foldCase (flags : Flags) (set : CodeSet) : CodeSet :=
  if flags.caseInsensitive then
    if flags.unicode then set.foldCase else set.foldAsciiCase
  else set

/-- Without the flag for Unicode a complement would hold parts of characters. -/
private def complement (flags : Flags) (negated : Bool) (span : Span) (set : CodeSet) :
    Except Fault CodeSet :=
  if !negated then .ok set
  else if flags.unicode then .ok set.compl
  else refuse .invalidUtf8 span

private def foldAndComplement (flags : Flags) (negated : Bool) (span : Span) (set : CodeSet) :
    Except Fault CodeSet :=
  flags.complement negated span (flags.foldCase set)

/-- A literal must not be a byte of a longer character. -/
private def checkLiteral (flags : Flags) (l : Literal) : Except Fault Unit :=
  if !flags.unicode && l.byte && 0x80 ≤ l.char.toNat then refuse .invalidUtf8 l.span else .ok ()

/-- Within brackets, nothing but ASCII can be told apart without the flag for Unicode. -/
private def checkMember (flags : Flags) (l : Literal) : Except Fault Unit := do
  flags.checkLiteral l
  if !flags.unicode && 0x80 ≤ l.char.toNat then refuse .unicodeNotAllowed l.span

private def shorthandSet (flags : Flags) (kind : Shorthand) (negated : Bool) (span : Span) :
    Except Fault CodeSet :=
  let set := match kind with
    | .digit => if flags.unicode then Text.Category.decimalNumber.set else .ofRange 0x30 0x39
    | .space =>
      if flags.unicode then .ofRanges Text.blankRanges
      else .ofRanges [(0x09, 0x0D), (0x20, 0x20)]
    | .word =>
      if flags.unicode then Text.wordSet
      else .ofRanges [(0x30, 0x39), (0x41, 0x5A), (0x5F, 0x5F), (0x61, 0x7A)]
  flags.complement negated span set

private def propertySet (flags : Flags) (name : PropertyName) (negated : Bool) (span : Span) :
    Except Fault CodeSet :=
  if !flags.unicode then refuse .unicodeNotAllowed span
  else match name.set with
    | .ok set => flags.foldAndComplement negated span set
    | .error cause => refuse cause span

private def dotSet (flags : Flags) (span : Span) : Except Fault CodeSet :=
  if !flags.unicode then refuse .invalidUtf8 span
  else if flags.dotMatchesNewline then .ok .full
  else if flags.carriageReturns then .ok (CodeSet.ofRanges [(0x0A, 0x0A), (0x0D, 0x0D)]).compl
  else .ok (CodeSet.singleton '\n').compl

private def look (flags : Flags) : Assertion → Look
  | .lineStart =>
    if !flags.multiLine then .start
    else if flags.carriageReturns then .lineStartCarriage else .lineStart
  | .lineStop =>
    if !flags.multiLine then .stop
    else if flags.carriageReturns then .lineStopCarriage else .lineStop
  | .textStart => .start
  | .textStop => .stop
  | .wordBoundary => .boundary !flags.unicode
  | .notWordBoundary => .notBoundary !flags.unicode
  | .wordStart => .wordStart !flags.unicode
  | .wordStop => .wordStop !flags.unicode
  | .wordStartHalf => .wordStartHalf !flags.unicode
  | .wordStopHalf => .wordStopHalf !flags.unicode

end Flags

def SetOperation.apply : SetOperation → CodeSet → CodeSet → CodeSet
  | .intersection => CodeSet.inter
  | .difference => CodeSet.diff
  | .symmetricDifference => CodeSet.symmDiff

def Bracket.set (flags : Flags) : Bracket → Except Fault CodeSet
  | .empty => .ok ∅
  | .literal l => do
    flags.checkMember l
    return .singleton l.char
  | .range first last => do
    flags.checkMember first
    flags.checkMember last
    return .ofRange first.char.toNat last.char.toNat
  | .shorthand kind negated span => flags.shorthandSet kind negated span
  | .property name negated span => flags.propertySet name negated span
  | .ascii set negated span => flags.foldAndComplement negated span set
  | .nested inner negated span => do flags.foldAndComplement negated span (← inner.set flags)
  | .union first second => do
    let left ← first.set flags
    return left.union (← second.set flags)
  | .combined operation left right => do
    let left ← left.set flags
    let right ← right.set flags
    return operation.apply (flags.foldCase left) (flags.foldCase right)

def Atom.expr (flags : Flags) : Atom → Except Fault Expr
  | .literal l => do
    flags.checkLiteral l
    return .one (flags.foldCase (.singleton l.char))
  | .anyCharacter span => .one <$> flags.dotSet span
  | .assertion test _ => .ok (.look (flags.look test))
  | .shorthand kind negated span => .one <$> flags.shorthandSet kind negated span
  | .property name negated span => .one <$> flags.propertySet name negated span

/-- The meaning of a term under the flags in force, and the flags in force after it. -/
def Term.exprUnder (flags : Flags) : Term → Except Fault (Expr × Flags)
  | .empty => .ok (.empty, flags)
  | .flags changes => .ok (.empty, flags.change changes)
  | .atom a => do return (← a.expr flags, flags)
  | .bracket inner negated span => do
    let set ← inner.set flags
    return (.one (← flags.foldAndComplement negated span set), flags)
  | .repeated body least most => do
    let (body, flags) ← body.exprUnder flags
    return (.repeated body least most, flags)
  | .group changes body => do
    let (body, _) ← body.exprUnder (flags.change changes)
    return (body, flags)
  | .sequence first second => do
    let (first, flags) ← first.exprUnder flags
    let (second, flags) ← second.exprUnder flags
    return (.sequence first second, flags)
  | .choice first second => do
    let (first, flags) ← first.exprUnder flags
    let (second, flags) ← second.exprUnder flags
    return (.choice first second, flags)

end Colloquy.Pattern

namespace Colloquy

structure Pattern where
  source : String
  expr : Pattern.Expr
deriving DecidableEq, Repr

namespace Pattern

/-- Takes a text for a pattern or refuses it.  A reader may also refuse for want of room what is
well written. -/
abbrev Reader := String → Except Refusal Pattern

/-- Takes all that is well written, however much room it needs. -/
def parse : Reader := fun source =>
  match (do (← Term.parse source).exprUnder {}) with
  | .ok (expr, _) => .ok ⟨source, expr⟩
  | .error fault => .error (.malformed fault)

end Pattern

end Colloquy
