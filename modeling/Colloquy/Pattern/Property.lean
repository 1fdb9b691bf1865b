import Colloquy.Pattern.Fault
import Colloquy.Pattern.Term
import Colloquy.Text.Age
import Colloquy.Text.Break.Grapheme
import Colloquy.Text.Break.Sentence
import Colloquy.Text.Break.Word
import Colloquy.Text.Property.Named
import Colloquy.Text.Script

/-!
Sets of characters by the names of their properties.  Case, blanks, hyphens, underscores and the
word "is" in front make no difference in names.
-/

namespace Colloquy.Pattern

open Text (Age Category CodeSet GraphemeBreak Script SentenceBreak WordBreak)

private def plainName (name : String) : String :=
  let letters := name.toList
  let (marked, letters) := match letters with
    | 'i' :: 's' :: rest => (true, rest)
    | 'I' :: 's' :: rest => (true, rest)
    | 'i' :: 'S' :: rest => (true, rest)
    | 'I' :: 'S' :: rest => (true, rest)
    | letters => (false, letters)
  let kept := letters.filter fun c => c.toNat < 0x80 && c ≠ ' ' && c ≠ '_' && c ≠ '-'
  let plain := kept.map Char.toLower
  String.ofList (if marked && plain = ['c'] then ['i', 's', 'c'] else plain)

/-- The categories by name.  Surrogates have a name, but no characters. -/
private def categoryNames : List (List String × Option (List Category)) := [
  (["c", "other"], some Category.others),
  (["cc", "control", "cntrl"], some [.control]),
  (["cf", "format"], some [.format]),
  (["cn", "unassigned"], some [.unassigned]),
  (["co", "privateuse"], some [.privateUse]),
  (["cs", "surrogate"], none),
  (["l", "letter"], some Category.letters),
  (["lc", "casedletter"], some Category.casedLetters),
  (["ll", "lowercaseletter"], some [.lowercaseLetter]),
  (["lm", "modifierletter"], some [.modifierLetter]),
  (["lo", "otherletter"], some [.otherLetter]),
  (["lt", "titlecaseletter"], some [.titlecaseLetter]),
  (["lu", "uppercaseletter"], some [.uppercaseLetter]),
  (["m", "mark", "combiningmark"], some Category.marks),
  (["mc", "spacingmark"], some [.spacingMark]),
  (["me", "enclosingmark"], some [.enclosingMark]),
  (["mn", "nonspacingmark"], some [.nonspacingMark]),
  (["n", "number"], some Category.numbers),
  (["nd", "decimalnumber", "digit"], some [.decimalNumber]),
  (["nl", "letternumber"], some [.letterNumber]),
  (["no", "othernumber"], some [.otherNumber]),
  (["p", "punctuation", "punct"], some Category.punctuation),
  (["pc", "connectorpunctuation"], some [.connectorPunctuation]),
  (["pd", "dashpunctuation"], some [.dashPunctuation]),
  (["pe", "closepunctuation"], some [.closePunctuation]),
  (["pf", "finalpunctuation"], some [.finalPunctuation]),
  (["pi", "initialpunctuation"], some [.initialPunctuation]),
  (["po", "otherpunctuation"], some [.otherPunctuation]),
  (["ps", "openpunctuation"], some [.openPunctuation]),
  (["s", "symbol"], some Category.symbols),
  (["sc", "currencysymbol"], some [.currencySymbol]),
  (["sk", "modifiersymbol"], some [.modifierSymbol]),
  (["sm", "mathsymbol"], some [.mathSymbol]),
  (["so", "othersymbol"], some [.otherSymbol]),
  (["z", "separator"], some Category.separators),
  (["zl", "lineseparator"], some [.lineSeparator]),
  (["zp", "paragraphseparator"], some [.paragraphSeparator]),
  (["zs", "spaceseparator"], some [.spaceSeparator])]

/-- Scripts that have a name, but no set of characters. -/
private def emptyScripts : List String :=
  ["zzzz", "unknown", "hrkt", "katakanaorhiragana"]

/-- Properties that are known by name, but do not tell a set of characters by themselves.  The
names are as `plainName` leaves them, so "ISO comment" stands here without its first letters. -/
private def otherProperties : List String :=
  ["age", "bidiclass", "bc", "bidimirroringglyph", "bmg", "bidipairedbracket", "bpb",
   "bidipairedbrackettype", "bpt", "block", "blk", "canonicalcombiningclass", "ccc", "casefolding",
   "cf", "changeswhennfkccasefolded", "cwkcf", "compositionexclusion", "ce",
   "decompositionmapping", "dm", "decompositiontype", "dt", "eastasianwidth", "ea",
   "equivalentunifiedideograph", "equideo", "expandsonnfc", "xonfc", "expandsonnfd", "xonfd",
   "expandsonnfkc", "xonfkc", "expandsonnfkd", "xonfkd", "fcnfkcclosure", "fcnfkc",
   "fullcompositionexclusion", "compex", "generalcategory", "gc", "graphemeclusterbreak", "gcb",
   "hangulsyllabletype", "hst", "indicconjunctbreak", "incb", "indicpositionalcategory", "inpc",
   "indicsyllabiccategory", "insc", "ocomment", "isc", "jamoshortname", "jsn", "joininggroup",
   "jg", "joiningtype", "jt", "linebreak", "lb", "lowercasemapping", "lc", "name", "na",
   "namealias", "nfcquickcheck", "nfcqc", "nfdquickcheck", "nfdqc", "nfkccasefold", "nfkccf",
   "nfkcquickcheck", "nfkcqc", "nfkcsimplecasefold", "nfkcscf", "nfkdquickcheck", "nfkdqc",
   "numerictype", "nt", "numericvalue", "nv", "script", "sc", "scriptextensions", "scx",
   "sentencebreak", "sb", "simplecasefolding", "scf", "sfc", "simplelowercasemapping", "slc",
   "simpletitlecasemapping", "stc", "simpleuppercasemapping", "suc", "titlecasemapping", "tc",
   "unicode1name", "na1", "uppercasemapping", "uc", "verticalorientation", "vo", "wordbreak", "wb"]

/-- Properties of ideographs and hieroglyphs, which do not tell a set of characters either.  Most
have two names, one that begins with "k" and one with "cjk". -/
private def ideographProperties : List String :=
  ["accountingnumeric", "compatibilityvariant", "iicore", "irggsource", "irghsource", "irgjsource",
   "irgkpsource", "irgksource", "irgmsource", "irgssource", "irgtsource", "irguksource",
   "irgusource", "irgvsource", "mandarin", "othernumeric", "primarynumeric", "rsunicode",
   "simplifiedvariant", "totalstrokes", "traditionalvariant", "unihancore2020"].flatMap
      (fun name => ["k" ++ name, "cjk" ++ name]) ++
  ["unicoderadicalstroke", "urs", "kehcat", "kehcore", "kehdesc", "kehfunc", "kehfval", "kehhg",
   "kehifao", "kehjsesh", "kehnomirror", "kehnorotate", "kehunik"]

private def isProperty (name : String) : Bool :=
  otherProperties.contains name || ideographProperties.contains name
    || Text.Property.named.any (·.1.contains name)

/-- What a name stands for among the values of a property: a set, nothing, or something that has
no set. -/
private def categorySet? (name : String) : Option (Option CodeSet) :=
  match name with
  | "any" => some (some .full)
  | "ascii" => some (some (.ofRange 0 0x7F))
  | "assigned" => some (some Category.unassigned.set.compl)
  | _ =>
    (categoryNames.find? (·.1.contains name)).map fun (_, categories) =>
      categories.map Category.setOf

private def scriptSet? (sets : Script → CodeSet) (name : String) : Option (Option CodeSet) :=
  if emptyScripts.contains name then some none
  else (Script.find? name).map fun script => some (sets script)

/-- A name that stands alone: a binary property, else a category, else a script.  Three names are
those of a category in spite of a property that has the same name. -/
private def setOfName (name : String) : Except Cause CodeSet :=
  if isProperty name ∧ name ∉ ["cf", "lc", "sc"] then
    match Text.Property.named.find? (·.1.contains name) with
    | some (_, set) => .ok set
    | none => .error .propertyUnknown
  else match categorySet? name <|> scriptSet? Script.own name with
    | some (some set) => .ok set
    | some none => .error .propertyValueUnknown
    | none => .error .propertyUnknown

private def setOfValue (name value : String) : Except Cause CodeSet :=
  let found :=
    if ["generalcategory", "gc"].contains name then some (categorySet? value).join
    else if ["script", "sc"].contains name then some (scriptSet? Script.own value).join
    else if ["scriptextensions", "scx"].contains name then
      some (scriptSet? Script.used value).join
    else if name = "age" then some ((Age.find? value).map Age.set)
    else if ["graphemeclusterbreak", "gcb"].contains name then
      some ((GraphemeBreak.find? value).map GraphemeBreak.set)
    else if ["wordbreak", "wb"].contains name then
      some ((WordBreak.find? value).map WordBreak.set)
    else if ["sentencebreak", "sb"].contains name then
      some ((SentenceBreak.find? value).map SentenceBreak.set)
    else if isProperty name then some none
    else none
  match found with
  | some (some set) => .ok set
  | some none => .error .propertyValueUnknown
  | none => .error .propertyUnknown

def PropertyName.set : PropertyName → Except Cause CodeSet
  | .alone name => setOfName (plainName name)
  | .valued name value => setOfValue (plainName name) (plainName value)

end Colloquy.Pattern
