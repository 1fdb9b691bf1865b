/-!
The keys under which the conversation of a session with a script is stored.
-/

namespace Colloquy.Session

structure Keys where
  scriptId : String
  session : String
deriving DecidableEq, Repr

namespace Keys

def stem (keys : Keys) : String := keys.scriptId ++ ":session:" ++ keys.session

/-- Where the path of the pending input is stored. -/
def pointer (keys : Keys) : String := keys.stem ++ ":current"

/-- Where the answers are stored, by the paths of their inputs. -/
def answers (keys : Keys) : String := keys.stem ++ ":answer"

end Keys

end Colloquy.Session
