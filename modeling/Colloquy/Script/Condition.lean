import Colloquy.Text.Blank
import Colloquy.Text.Numeral
import Colloquy.Text.Word

/-!
Conditions on earlier answers: a word, a comparison and a word.  Equality compares texts, order
compares integers.
-/

namespace Colloquy

inductive Comparison where
  | equal
  | notEqual
  | greater
  | atLeast
  | less
  | atMost
deriving DecidableEq, Repr

namespace Comparison

def symbol : Comparison → String
  | .equal => "=="
  | .notEqual => "!="
  | .greater => ">"
  | .atLeast => ">="
  | .less => "<"
  | .atMost => "<="

def ofSymbol? : String → Option Comparison
  | "==" => some .equal
  | "!=" => some .notEqual
  | ">" => some .greater
  | ">=" => some .atLeast
  | "<" => some .less
  | "<=" => some .atMost
  | _ => none

/-- The comparison at the front of a text, the longest if there are two, and the text after it. -/
def atFront? : List Char → Option (Comparison × List Char)
  | '=' :: '=' :: rest => some (.equal, rest)
  | '!' :: '=' :: rest => some (.notEqual, rest)
  | '>' :: '=' :: rest => some (.atLeast, rest)
  | '<' :: '=' :: rest => some (.atMost, rest)
  | '>' :: rest => some (.greater, rest)
  | '<' :: rest => some (.less, rest)
  | _ => none

end Comparison

structure Condition where
  left : String
  comparison : Comparison
  right : String
deriving DecidableEq, Repr

namespace Condition

/-- A text that is no 64-bit integer counts as zero in comparisons of order. -/
def looseInteger (s : String) : Int := (Text.integer64? s).getD 0

/-- Does the condition hold if `value` was answered on its left side? -/
def holdsFor (condition : Condition) (value : String) : Bool :=
  let left := looseInteger value
  let right := looseInteger condition.right
  match condition.comparison with
  | .equal => value = condition.right
  | .notEqual => value ≠ condition.right
  | .greater => left > right
  | .atLeast => left ≥ right
  | .less => left < right
  | .atMost => left ≤ right

/-- The first comparison between two words; `word` holds the word characters read right before,
latest first. -/
def firstClause? (word : List Char) : List Char → Option (List Char × Comparison × List Char)
  | [] => none
  | c :: rest =>
    if Text.isWord c then firstClause? (c :: word) rest
    else
      match Comparison.atFront? (c :: rest) with
      | some (comparison, after) =>
        if word ≠ [] ∧ after.head?.any Text.isWord then
          some (word.reverse, comparison, after.takeWhile Text.isWord)
        else firstClause? [] rest
      | none => firstClause? [] rest

/-- Two words stand for the empty answer. -/
def operand (word : String) : String := if word = "null" ∨ word = "nil" then "" else word

/-- The first clause of a text, blanks aside.  Anything else in the text does not count. -/
def parse? (raw : String) : Option Condition :=
  (firstClause? [] (Text.stripBlanks raw).toList).map fun (left, comparison, right) =>
    ⟨String.ofList left, comparison, operand (String.ofList right)⟩

end Condition

end Colloquy
