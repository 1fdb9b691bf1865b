import Colloquy.Report

/-!
Why a text is refused as markup: it is not well written, or it is but would take too much room.
-/

namespace Colloquy.Markup

inductive Fault where
  | reservedNameRebound (place : Location)
  | reservedUriTaken (place : Location)
  | declarationUriTaken (place : Location)
  | declarationPrefixUsed (place : Location)
  | prefixRedeclared (name : String) (place : Location)
  | unknownPrefix (name : String) (place : Location)
  | wrongClose (expected found : String) (place : Location)
  | malformedReference (place : Location)
  | unknownEntity (name : String) (place : Location)
  | repeatedAttribute (name : String) (place : Location)
  | noRoot
  | unclosedRoot
  | misplacedDeclaration (place : Location)
  | doctype
  | invalidName (place : Location)
  | invalidCharacter (c : Char) (place : Location)
  | expectedCharacter (expected found : Char) (place : Location)
  | expectedKind (kind : String) (found : Char) (place : Location)
  | expectedText (text : String) (place : Location)
  | doubleHyphen (place : Location)
  | closingBrackets (place : Location)
  | unknownToken (place : Location)
  | endOfText
  | nodeLimit
  | attributeLimit
  | namespaceLimit
deriving DecidableEq, Repr

/-- A character that no text may hold: a control character, written with its code in
hexadecimal; NUL has a form of its own. -/
def quoteControl (c : Char) : String :=
  if c.toNat = 0 then "'\\0'"
  else "'\\u\x7b" ++ String.ofList (Nat.toDigits 16 c.toNat) ++ "\x7d'"

def Fault.message : Fault → String
  | .reservedNameRebound p => s!"'xml' namespace prefix mapped to wrong URI at {p.text}"
  | .reservedUriTaken p => s!"the 'xml' namespace URI is used for not 'xml' prefix at {p.text}"
  | .declarationUriTaken p => s!"the 'xmlns' URI is used at {p.text}, but it must not be declared"
  | .declarationPrefixUsed p => s!"the 'xmlns' prefix is used at {p.text}, but it must not be"
  | .prefixRedeclared name p => s!"namespace '{name}' at {p.text} is already defined"
  | .unknownPrefix name p => s!"an unknown namespace prefix '{name}' at {p.text}"
  | .wrongClose expected found p => s!"expected '{expected}' tag, not '{found}' at {p.text}"
  | .malformedReference p => s!"malformed entity reference at {p.text}"
  | .unknownEntity name p => s!"unknown entity reference '{name}' at {p.text}"
  | .repeatedAttribute name p => s!"attribute '{name}' at {p.text} is already defined"
  | .noRoot => "the document does not have a root node"
  | .unclosedRoot => "the root node was opened but never closed"
  | .misplacedDeclaration p => s!"unexpected XML declaration at {p.text}"
  | .doctype => "XML with DTD detected"
  | .invalidName p => s!"invalid name token at {p.text}"
  | .invalidCharacter c p => s!"a non-XML character {quoteControl c} found at {p.text}"
  | .expectedCharacter expected found p => s!"expected '{expected}' not '{found}' at {p.text}"
  | .expectedKind kind found p => s!"expected {kind} not '{found}' at {p.text}"
  | .expectedText text p => s!"expected '{text}' at {p.text}"
  | .doubleHyphen p => s!"comment at {p.text} contains '--'"
  | .closingBrackets p => s!"']]>' at {p.text} is not allowed inside a character data"
  | .unknownToken p => s!"unknown token at {p.text}"
  | .endOfText => "unexpected end of stream"
  | .nodeLimit => "nodes limit reached"
  | .attributeLimit => "more than 2^32 attributes were parsed"
  | .namespaceLimit => "more than 2^16 unique namespaces were parsed"

def Fault.report (fault : Fault) : Report := ⟨"XML_PARSE_ERROR", fault.message, none⟩

end Colloquy.Markup
