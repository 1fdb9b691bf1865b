import Colloquy.Json.Value
import Colloquy.Routing.Target

/-!
Tokens and targets as JSON.
-/

namespace Colloquy

/-- A dictionary as an object, in the order of its keys. -/
def Dict.toJson {α : Type} (value : α → Json) (d : Dict α) : Json :=
  .object (d.entries.map fun (key, v) => (key, value v))

namespace Routing

def Scheme.toJson : Scheme → Json
  | .other name => .object [("other", .text name)]
  | scheme => .text scheme.name

def Token.toJson (token : Token) : Json :=
  .object [("scheme", token.scheme.toJson), ("host", .text token.host),
    ("query", token.query.toJson .text)]

def Target.toJson : Target → Json
  | .external url => .object [("kind", .text "external"), ("value", .text url)]
  | .route token => .object [("kind", .text "route"), ("value", token.toJson)]

end Routing

end Colloquy
