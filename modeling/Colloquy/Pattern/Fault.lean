import Colloquy.Pattern.Nest
import Colloquy.Report

/-!
Why a text is refused as a pattern, and how the place is shown in it: the faulty characters are
underlined with carets.
-/

namespace Colloquy.Pattern

inductive Cause where
  | classEscape
  | classRangeOrder
  | classRangeBound
  | classUnclosed
  | decimalInvalid
  | hexEmpty
  | hexInvalid
  | hexDigit
  | escapeUnfinished
  | escapeUnknown
  | flagNegationDangling
  | flagRepeated
  | flagNegationRepeated
  | flagsUnfinished
  | flagUnknown
  | groupNameRepeated
  | groupNameEmpty
  | groupNameCharacter
  | groupNameUnclosed
  | groupUnclosed
  | groupUnopened
  | countOrder
  | countMissing
  | countUnclosed
  | repetitionMissing
  | wordBoundaryUnclosed
  | wordBoundaryUnknown
  | wordBoundaryUnfinished
  | propertyLetter
  | backreference
  | lookAround
  | nestedTooDeep
  | unicodeNotAllowed
  | invalidUtf8
  | propertyUnknown
  | propertyValueUnknown
deriving DecidableEq, Repr

def Cause.message : Cause → String
  | .classEscape => "invalid escape sequence found in character class"
  | .classRangeOrder => "invalid character class range, the start must be <= the end"
  | .classRangeBound => "invalid range boundary, must be a literal"
  | .classUnclosed => "unclosed character class"
  | .decimalInvalid => "decimal literal invalid"
  | .hexEmpty => "hexadecimal literal empty"
  | .hexInvalid => "hexadecimal literal is not a Unicode scalar value"
  | .hexDigit => "invalid hexadecimal digit"
  | .escapeUnfinished => "incomplete escape sequence, reached end of pattern prematurely"
  | .escapeUnknown => "unrecognized escape sequence"
  | .flagNegationDangling => "dangling flag negation operator"
  | .flagRepeated => "duplicate flag"
  | .flagNegationRepeated => "flag negation operator repeated"
  | .flagsUnfinished => "expected flag but got end of regex"
  | .flagUnknown => "unrecognized flag"
  | .groupNameRepeated => "duplicate capture group name"
  | .groupNameEmpty => "empty capture group name"
  | .groupNameCharacter => "invalid capture group character"
  | .groupNameUnclosed => "unclosed capture group name"
  | .groupUnclosed => "unclosed group"
  | .groupUnopened => "unopened group"
  | .countOrder => "invalid repetition count range, the start must be <= the end"
  | .countMissing => "repetition quantifier expects a valid decimal"
  | .countUnclosed => "unclosed counted repetition"
  | .repetitionMissing => "repetition operator missing expression"
  | .wordBoundaryUnclosed =>
    "special word boundary assertion is either unclosed or contains an invalid character"
  | .wordBoundaryUnknown =>
    "unrecognized special word boundary assertion, " ++
      "valid choices are: start, end, start-half or end-half"
  | .wordBoundaryUnfinished =>
    "found either the beginning of a special word boundary or a bounded repetition on a \\b " ++
      "with an opening brace, but no closing brace"
  | .propertyLetter => "invalid Unicode character class"
  | .backreference => "backreferences are not supported"
  | .lookAround => "look-around, including look-ahead and look-behind, is not supported"
  | .nestedTooDeep =>
    s!"exceed the maximum number of nested parentheses/brackets ({nestLimit})"
  | .unicodeNotAllowed => "Unicode not allowed here"
  | .invalidUtf8 => "pattern can match invalid UTF-8"
  | .propertyUnknown => "Unicode property not found"
  | .propertyValueUnknown => "Unicode property value not found"

/-- What is wrong in a text, with its place; `earlier` is the place that a repeated thing
repeats. -/
structure Fault where
  cause : Cause
  span : Span
  earlier : Option Span := none
deriving DecidableEq, Repr

namespace Fault

/-- Carets under the columns of spans on one line, given from left to right.  An empty span gets
one. -/
private def carets (column : Nat) : List Span → List Char
  | [] => []
  | span :: rest =>
    let width := max 1 (span.stop.column - span.start.column)
    List.replicate (span.start.column - column) ' ' ++ List.replicate width '^' ++
      carets (max column span.start.column + width) rest

/-- The lines of a text.  A line feed ends a line, with a carriage return before it. -/
private def linesFrom (line : List Char) : List Char → List (List Char)
  | [] => if line.isEmpty then [] else [line.reverse]
  | '\n' :: rest =>
    (match line with
      | '\r' :: before => before.reverse
      | before => before.reverse) :: linesFrom [] rest
  | c :: rest => linesFrom (c :: line) rest

private def precedes (first second : Location) : Bool :=
  first.line < second.line || (first.line == second.line && first.column ≤ second.column)

private def spans (fault : Fault) : List Span :=
  match fault.earlier with
  | none => [fault.span]
  | some earlier =>
    if precedes earlier.start fault.span.start then [earlier, fault.span]
    else [fault.span, earlier]

private def spansLines (span : Span) : Bool := span.start.line ≠ span.stop.line

/-- The pattern line by line, each after its number if there are several, with the spans that lie
within a line marked below it. -/
private def notated (fault : Fault) (pattern : String) : List Char :=
  let lines := linesFrom [] pattern.toList
  let count := if pattern.endsWith "\n" then lines.length + 1 else lines.length
  let width := if count ≤ 1 then 0 else (toString count).length
  (lines.zipIdx 1).flatMap fun (line, number) =>
    let label := (toString number).toList
    let lead :=
      if width = 0 then "    ".toList
      else List.replicate (width - label.length) ' ' ++ label ++ [':', ' ']
    let marks := fault.spans.filter fun span => !spansLines span && span.start.line = number
    let underline :=
      if marks.isEmpty then []
      else List.replicate lead.length ' ' ++ carets 1 marks ++ ['\n']
    lead ++ line ++ ['\n'] ++ underline

private def multiLineNotes (fault : Fault) : List String :=
  (fault.spans.filter spansLines).map fun span =>
    s!"on line {span.start.line} (column {span.start.column}) through line " ++
      s!"{span.stop.line} (column {span.stop.column - 1})"

def message (fault : Fault) (pattern : String) : String :=
  let shown := String.ofList (fault.notated pattern)
  let cause := s!"error: {fault.cause.message}"
  if pattern.contains '\n' then
    let divider := String.ofList (List.replicate 79 '~') ++ "\n"
    let notes := fault.multiLineNotes
    let noted := if notes.isEmpty then "" else "\n".intercalate notes ++ "\n"
    "regex parse error:\n" ++ divider ++ shown ++ divider ++ noted ++ cause
  else "regex parse error:\n" ++ shown ++ cause

end Fault

/-- Why a text is refused: it is no pattern, or it is one that would take too much room. -/
inductive Refusal where
  | malformed (fault : Fault)
  | oversized (limit : Nat)
deriving DecidableEq, Repr

def Refusal.message (pattern : String) : Refusal → String
  | .malformed fault => fault.message pattern
  | .oversized limit => s!"Compiled regex exceeds size limit of {limit} bytes."

end Colloquy.Pattern
