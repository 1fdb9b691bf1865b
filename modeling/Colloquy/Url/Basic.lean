import Colloquy.Url.Form
import Colloquy.Url.Host

/-!
Absolute URLs: scheme, host, port, path and query.  User information and fragments are read over
and dropped.
-/

namespace Colloquy

structure Url where
  scheme : String
  host : Url.Host
  port : Option Nat
  path : String
  query : Option String
deriving DecidableEq, Repr

namespace Url

/-- Schemes with rules of their own: a backslash is a slash and slashes before the host are
optional. -/
inductive SchemeKind where
  | special
  | file
  | other
deriving DecidableEq, Repr

def SchemeKind.ofScheme (scheme : String) : SchemeKind :=
  if scheme = "file" then .file
  else if scheme ∈ ["http", "https", "ws", "wss", "ftp"] then .special
  else .other

def defaultPort? (scheme : String) : Option Nat :=
  match scheme with
  | "http" | "ws" => some 80
  | "https" | "wss" => some 443
  | "ftp" => some 21
  | _ => none

def isTrimmed (c : Char) : Bool := c.toNat ≤ 0x20

def isIgnored (c : Char) : Bool := c == '\t' || c == '\n' || c == '\r'

/-- The characters that count: without control characters and spaces at both ends, and without
tabs and line ends anywhere. -/
def significant (cs : List Char) : List Char :=
  (((cs.dropWhile isTrimmed).reverse.dropWhile isTrimmed).reverse).filter (!isIgnored ·)

def isSchemeChar (c : Char) : Bool := c.isAlphanum || c ∈ ['+', '-', '.']

/-- The scheme in lower case, and what follows its colon. -/
def splitScheme? (cs : List Char) : Option (String × List Char) :=
  match cs with
  | c :: _ =>
    if c.isAlpha then
      match cs.dropWhile isSchemeChar with
      | ':' :: rest => some (String.ofList ((cs.takeWhile isSchemeChar).map Char.toLower), rest)
      | _ => none
    else none
  | [] => none

def isSlash (kind : SchemeKind) (c : Char) : Bool :=
  c == '/' || (kind != .other && c == '\\')

/-- Does `c` end the part that holds user information, host and port? -/
def endsAuthority (kind : SchemeKind) (c : Char) : Bool :=
  isSlash kind c || c == '?' || c == '#'

/-!
Paths.
-/

private def dotVariants : List String := [".", "%2e", "%2E"]

private def isSingleDot (segment : List Char) : Bool := String.ofList segment ∈ dotVariants

private def isDoubleDot (segment : List Char) : Bool :=
  dotVariants.any fun first => dotVariants.any fun second => first ++ second = String.ofList segment

private def isDriveLetter (segment : List Char) : Bool :=
  match segment with
  | [letter, mark] => letter.isAlpha && (mark == ':' || mark == '|')
  | _ => false

/-- Segments of a path under way, latest first, and whether a drive letter came first. -/
private structure PathReading where
  segments : List (List Char)
  drive : Bool

/-- Dot segments are resolved; a drive letter at the start of a file path is kept there. -/
private def addSegments (kind : SchemeKind) (reading : PathReading) :
    List (List Char) → PathReading
  | [] => reading
  | segment :: rest =>
    let last := rest.isEmpty
    let popped :=
      if reading.drive && reading.segments.length ≤ 1 then reading.segments
      else reading.segments.drop 1
    let next : PathReading :=
      if isDoubleDot segment then
        ⟨if last then [] :: popped else popped, reading.drive⟩
      else if isSingleDot segment then
        ⟨if last then [] :: reading.segments else reading.segments, reading.drive⟩
      else if kind = .file ∧ reading.segments = [] ∧ isDriveLetter segment then
        ⟨[segment.take 1 ++ [':']], true⟩
      else ⟨percentEncode keepsPath segment :: reading.segments, reading.drive⟩
    addSegments kind next rest

private def readSegments (kind : SchemeKind) (cs : List Char) : PathReading :=
  let unified := cs.map fun c => if isSlash kind c then '/' else c
  addSegments kind ⟨[], false⟩ (Text.pieces '/' unified)

private def joinSegments (segments : List (List Char)) : String :=
  String.ofList (segments.flatMap fun segment => '/' :: segment)

/-- The path of a URL with an authority, from what stands between the authority and the query. -/
def rootedPath (kind : SchemeKind) (cs : List Char) : String × Bool :=
  match cs with
  | [] => (if kind = .other then "" else "/", false)
  | c :: rest =>
    let reading := readSegments kind (if isSlash kind c then rest else cs)
    let segments := reading.segments.reverse
    let segments := if kind = .file then
        match segments.dropWhile (· = []) with
        | [] => [[]]
        | kept => kept
      else segments
    (joinSegments segments, reading.drive)

/-!
Authorities.
-/

/-- What stands before the last `@`, if there is one, and what follows. -/
def splitUserInfo (cs : List Char) : Option (List Char) × List Char :=
  if '@' ∈ cs then
    let hostPort := (cs.reverse.takeWhile (· ≠ '@')).reverse
    (some (cs.take (cs.length - hostPort.length - 1)), hostPort)
  else (none, cs)

/-- The characters of the host and what follows: a colon outside brackets ends it. -/
def splitHost (inBrackets : Bool) : List Char → List Char × List Char
  | [] => ([], [])
  | c :: rest =>
    if c = ':' ∧ ¬ inBrackets then ([], c :: rest)
    else
      let inside := if c = '[' then true else if c = ']' then false else inBrackets
      let (host, after) := splitHost inside rest
      (c :: host, after)

/-- The port after a colon, and what follows it; a backslash may end it in any scheme. -/
def readPort (scheme : String) (cs : List Char) :
    Except Fault (Option Nat × List Char) :=
  let digits := cs.takeWhile Char.isDigit
  let rest := cs.dropWhile Char.isDigit
  let port := digits.foldl (fun n c => n * 10 + (c.toNat - 48)) 0
  if 65535 < port then .error .invalidPort
  else match rest with
    | [] | '\\' :: _ =>
      .ok (if digits = [] ∨ defaultPort? scheme = some port then none else some port, rest)
    | _ => .error .invalidPort

structure Authority where
  host : Host
  port : Option Nat
  rest : List Char

/-- `atEnd` tells that nothing follows the authority in the whole text. -/
def readAuthority (scheme : String) (kind : SchemeKind) (cs : List Char) (atEnd : Bool) :
    Except Fault Authority := do
  let (user, hostPort) := splitUserInfo cs
  if user = some [] ∧ hostPort = [] ∧ ¬ atEnd then throw .emptyHost
  let (hostChars, after) := splitHost false hostPort
  if kind = .special ∧ hostChars = [] then throw .emptyHost
  let host ← if kind = .other then Host.parseOpaque hostChars else Host.parseDomain hostChars
  let (port, rest) ← match after with
    | ':' :: digits => if host = .empty then throw .emptyHost else readPort scheme digits
    | _ => pure (none, after)
  let credentials : Bool := match user with
    | none | some [] | some [':'] => false
    | some _ => true
  if host = .empty ∧ credentials then throw .emptyHost
  return ⟨host, port, rest⟩

/-- What stands before the query and the fragment, and the encoded query. -/
def splitQuery (special : Bool) (cs : List Char) : List Char × Option String :=
  let body := cs.takeWhile (· ≠ '#')
  let front := body.takeWhile (· ≠ '?')
  match body.dropWhile (· ≠ '?') with
  | _ :: query =>
    let keeps := fun c => keepsQuery c && !(special && c == '\'')
    (front, some (String.ofList (percentEncode keeps query)))
  | [] => (front, none)

def parseWithAuthority (scheme : String) (kind : SchemeKind) (cs : List Char) :
    Except Fault Url := do
  let authority := cs.takeWhile (!endsAuthority kind ·)
  let after := cs.dropWhile (!endsAuthority kind ·)
  let read ← readAuthority scheme kind authority after.isEmpty
  let (front, query) := splitQuery (kind != .other) (read.rest ++ after)
  return ⟨scheme, read.host, read.port, (rootedPath kind front).1, query⟩

/-- A drive letter in place of the host, or first in the path, leaves the host empty; so does the
name `localhost`. -/
def parseFile (scheme : String) (cs : List Char) : Except Fault Url := do
  let (front, query) := splitQuery true cs
  match front with
  | a :: b :: rest =>
    if isSlash .file a && isSlash .file b then
      let hostChars := rest.takeWhile (!isSlash .file ·)
      if hostChars = [] ∨ isDriveLetter hostChars then
        return ⟨scheme, .empty, none, (rootedPath .file rest).1, query⟩
      let host ← Host.parseDomain hostChars
      let (path, drive) := rootedPath .file (rest.drop hostChars.length)
      let host := if drive ∨ host = .name "localhost" then .empty else host
      return ⟨scheme, host, none, path, query⟩
    else return ⟨scheme, .empty, none, (rootedPath .file front).1, query⟩
  | _ => return ⟨scheme, .empty, none, (rootedPath .file front).1, query⟩

def parseOther (scheme : String) (cs : List Char) : Except Fault Url :=
  match cs with
  | '/' :: '/' :: rest => parseWithAuthority scheme .other rest
  | _ =>
    let (front, query) := splitQuery false cs
    let path := match front with
      | '/' :: _ => (rootedPath .other front).1
      | _ => String.ofList (percentEncode keepsOpaque front)
    .ok ⟨scheme, .empty, none, path, query⟩

def parse (s : String) : Except Fault Url :=
  match splitScheme? (significant s.toList) with
  | none => .error .relativeWithoutBase
  | some (scheme, rest) =>
    match SchemeKind.ofScheme scheme with
    | .file => parseFile scheme rest
    | .special => parseWithAuthority scheme .special (rest.dropWhile (isSlash .special ·))
    | .other => parseOther scheme rest

def queryPairs (url : Url) : List (String × String) :=
  match url.query with
  | some query => Form.decode query
  | none => []

/-- What a request for the URL names: its path, and its query after a question mark. -/
def requestTarget (url : Url) : String :=
  match url.query with
  | some query => url.path ++ "?" ++ query
  | none => url.path

end Url

end Colloquy
