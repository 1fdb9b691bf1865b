import Colloquy.Json.Value

/-!
Taking records out of values: fields by name or by position, and records of several kinds, told
apart by a tag.
-/

namespace Colloquy.Json

/-- A record whose fields have names, or come in a fixed order. -/
inductive Record where
  | named (members : List (String × Json))
  | ordered (items : List Json)

namespace Record

def ofJson? : Json → Option Record
  | .object members => some (.named members)
  | .list items => some (.ordered items)
  | _ => none

/-- The members of a name; it must not occur twice. -/
private def member? (members : List (String × Json)) (name : String) : Option (Option Json) :=
  match members.filter (·.1 = name) with
  | [] => some none
  | [(_, value)] => some (some value)
  | _ => none

/-- The fields of a record.  Named ones may be missing or more than those asked for; in a fixed
order there must be as many as asked for. -/
def fields? (names : List String) : Record → Option (List (Option Json))
  | .named members => names.mapM (member? members)
  | .ordered items => if items.length = names.length then some (items.map some) else none

end Record

/-- A value with a tag: the tag and the record that goes with it. -/
def tagged? (tag : String) : Json → Option (Json × Record)
  | .object members =>
    match members.filter (·.1 = tag) with
    | [(_, value)] => some (value, .named (members.filter (·.1 ≠ tag)))
    | _ => none
  | .list (value :: items) => some (value, .ordered items)
  | _ => none

def text? : Json → Option String
  | .text value => some value
  | _ => none

end Colloquy.Json
