import Colloquy.Json.Reader
import Colloquy.Routing.Written

/-!
What a session store holds: texts by key, and tables of texts by key.  What is missing reads as
empty.
-/

namespace Colloquy.Session

structure Snapshot where
  values : Dict String
  hashes : Dict (Dict String)
deriving DecidableEq

namespace Snapshot

def empty : Snapshot := ⟨∅, ∅⟩

instance : EmptyCollection Snapshot := ⟨empty⟩

def value (snapshot : Snapshot) (key : String) : String := (snapshot.values.get? key).getD ""

def hash (snapshot : Snapshot) (key : String) : Dict String := (snapshot.hashes.get? key).getD ∅

def hashValue (snapshot : Snapshot) (key field : String) : String :=
  ((snapshot.hash key).get? field).getD ""

def toJson (snapshot : Snapshot) : Json :=
  .object [("values", snapshot.values.toJson .text),
    ("hashes", snapshot.hashes.toJson (·.toJson .text))]

def reader : Json.Reader Snapshot := fun input =>
  (Json.readRecord "struct StoreSnapshot"
    ⟨("values", Json.readDict Json.readText),
      ("hashes", Json.readDict (Json.readDict Json.readText))⟩
    input).map fun ((values, hashes), rest) => (⟨values, hashes⟩, rest)

end Snapshot

inductive Write where
  | set (key value : String)
  | delete (key : String)
  | setHash (key field value : String)
  | deleteHash (key : String)
deriving DecidableEq, Repr

def Write.apply (snapshot : Snapshot) : Write → Snapshot
  | .set key value => { snapshot with values := snapshot.values.insert key value }
  | .delete key => { snapshot with values := snapshot.values.erase key }
  | .setHash key field value =>
    { snapshot with
      hashes := snapshot.hashes.insert key ((snapshot.hash key).insert field value) }
  | .deleteHash key => { snapshot with hashes := snapshot.hashes.erase key }

namespace Snapshot

@[simp] theorem value_empty (key : String) : (∅ : Snapshot).value key = "" := rfl

@[simp] theorem value_set (snapshot : Snapshot) (key other v : String) :
    (Write.apply snapshot (.set key v)).value other =
      if key = other then v else snapshot.value other := by
  by_cases h : key = other <;> simp [Write.apply, value, h]

@[simp] theorem value_delete (snapshot : Snapshot) (key other : String) :
    (Write.apply snapshot (.delete key)).value other =
      if key = other then "" else snapshot.value other := by
  by_cases h : key = other <;> simp [Write.apply, value, h]

@[simp] theorem value_setHash (snapshot : Snapshot) (key field v other : String) :
    (Write.apply snapshot (.setHash key field v)).value other = snapshot.value other := rfl

@[simp] theorem value_deleteHash (snapshot : Snapshot) (key other : String) :
    (Write.apply snapshot (.deleteHash key)).value other = snapshot.value other := rfl

@[simp] theorem hash_empty (key : String) : (∅ : Snapshot).hash key = ∅ := rfl

@[simp] theorem hash_set (snapshot : Snapshot) (key v other : String) :
    (Write.apply snapshot (.set key v)).hash other = snapshot.hash other := rfl

@[simp] theorem hash_delete (snapshot : Snapshot) (key other : String) :
    (Write.apply snapshot (.delete key)).hash other = snapshot.hash other := rfl

@[simp] theorem hash_setHash (snapshot : Snapshot) (key field v other : String) :
    (Write.apply snapshot (.setHash key field v)).hash other =
      if key = other then (snapshot.hash key).insert field v else snapshot.hash other := by
  by_cases h : key = other <;> simp [Write.apply, hash, h]

@[simp] theorem hash_deleteHash (snapshot : Snapshot) (key other : String) :
    (Write.apply snapshot (.deleteHash key)).hash other =
      if key = other then ∅ else snapshot.hash other := by
  by_cases h : key = other <;> simp [Write.apply, hash, h]

end Snapshot

end Colloquy.Session
