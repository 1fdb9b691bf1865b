import Colloquy.Text.Pieces

/-!
Paths: names of directories joined by slashes, and at the end the name of a file or directory.
-/

namespace Colloquy

structure Path where
  absolute : Bool
  /-- What stands between the slashes, without the empty parts. -/
  steps : List String
  /-- Whether a slash comes last, so that only a directory can be meant. -/
  slash : Bool
deriving DecidableEq, Repr

namespace Path

def ofText (written : String) : Path where
  absolute := written.toList.head? = some '/'
  steps := ((Text.pieces '/' written.toList).filter (· ≠ [])).map String.ofList
  slash := written.toList.getLast? = some '/'

def text (path : Path) : String :=
  (if path.absolute then "/" else "") ++ "/".intercalate path.steps
    ++ if path.slash then "/" else ""

def entry (path name : String) : String :=
  if path = "" ∨ path.toList.getLast? = some '/' then path ++ name else path ++ "/" ++ name

/-- The path that the names lead on to, each from the directory before. -/
def below (path : String) (names : List String) : String := names.foldl entry path

/-- The steps that lead somewhere else, for which directories can be created. -/
def leading (path : Path) : List String :=
  match path.steps with
  | first :: rest =>
    if path.absolute then (first :: rest).filter (· ≠ ".") else first :: rest.filter (· ≠ ".")
  | [] => []

end Path

end Colloquy
