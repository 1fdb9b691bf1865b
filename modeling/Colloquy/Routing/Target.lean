import Colloquy.Routing.Token

/-!
Where a link leads: out to the web, or to a token of the conversation.
-/

namespace Colloquy.Routing

inductive Target where
  | external (url : String)
  | route (token : Token)
deriving DecidableEq

/-- Web addresses, and texts that are no URL, lead out. -/
def Target.ofHref (href : String) : Target :=
  match Url.parse href with
  | .ok url =>
    if url.scheme = "http" ∨ url.scheme = "https" then .external href else .route (.ofUrl url)
  | .error _ => .external href

end Colloquy.Routing
