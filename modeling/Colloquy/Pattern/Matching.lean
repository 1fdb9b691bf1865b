import Colloquy.Pattern.Expr

/-!
Matching.  The meaning of an expression in a text is a map on sets of places: from the places where
a match may start to those where it may end.  A set of places is a number whose bit `i` stands for
the place after `i` characters.
-/

namespace Colloquy.Pattern

open Text (CodeSet)

abbrev Places := Nat

def Places.all (size : Nat) : Places := (1 <<< (size + 1)) - 1

def Places.before (set : CodeSet) : List Char → Places
  | [] => 0
  | c :: rest => (if set.contains c then 1 else 0) + 2 * before set rest

private def isWordIn (ascii : Bool) (c : Char) : Bool :=
  if ascii then c.isAlphanum || c == '_' else Text.isWord c

/-- Does the test hold between two characters?  Either may be missing. -/
def Look.holds (look : Look) (before after : Option Char) : Bool :=
  match look with
  | .start => before.isNone
  | .stop => after.isNone
  | .lineStart => before.isNone || before == some '\n'
  | .lineStop => after.isNone || after == some '\n'
  | .lineStartCarriage =>
    before.isNone || before == some '\n' || (before == some '\r' && after != some '\n')
  | .lineStopCarriage =>
    after.isNone || after == some '\r' || (after == some '\n' && before != some '\r')
  | .boundary ascii => before.any (isWordIn ascii) != after.any (isWordIn ascii)
  | .notBoundary ascii => before.any (isWordIn ascii) == after.any (isWordIn ascii)
  | .wordStart ascii => !before.any (isWordIn ascii) && after.any (isWordIn ascii)
  | .wordStop ascii => before.any (isWordIn ascii) && !after.any (isWordIn ascii)
  | .wordStartHalf ascii => !before.any (isWordIn ascii)
  | .wordStopHalf ascii => !after.any (isWordIn ascii)

/-- The places where a test holds, after the character `before`. -/
def Places.passing (look : Look) (before : Option Char) : List Char → Places
  | [] => if look.holds before none then 1 else 0
  | c :: rest => (if look.holds before (some c) then 1 else 0) + 2 * passing look (some c) rest

/-- All that `next` leads to in at most so many rounds. -/
def Places.spread (next : Places → Places) : (rounds : Nat) → Places → Places
  | 0, places => places
  | rounds + 1, places =>
    let more := places ||| next places
    if more = places then places else spread next rounds more

/-- Places where matches end, for each set of places where they start. -/
def Expr.ends (text : List Char) : Expr → Places → Places
  | .empty, starts => starts
  | .one set, starts => (starts &&& Places.before set text) <<< 1
  | .look test, starts => starts &&& Places.passing test none text
  | .sequence first second, starts => second.ends text (first.ends text starts)
  | .choice first second, starts => first.ends text starts ||| second.ends text starts
  | .repeated body least most, starts =>
    -- In a text of `n` characters, rounds after the first `n + 1` find nothing new.
    let bound := text.length + 1
    let needed := Nat.repeat (body.ends text) (min least bound) starts
    let rounds := (most.map fun most => min (most - least) bound).getD bound
    Places.spread (body.ends text) rounds needed

end Colloquy.Pattern

namespace Colloquy

def Pattern.isMatch (pattern : Pattern) (text : String) : Bool :=
  pattern.expr.ends text.toList (Pattern.Places.all text.toList.length) != 0

end Colloquy
