import Colloquy.Dialogue.Conversation
import Colloquy.Proofs.Script.Places
import Colloquy.Proofs.Session.Healthy

/-!
What a conversation reads from a store that can be read: its own two entries, and nothing else.
-/

namespace Colloquy

open Session (Store)

/-- Whether an input is asked, given the answers so far. -/
def Script.shows (script : Script) (answers : Dict String) (input : Input) : Bool :=
  match input.condition with
  | none => true
  | some condition =>
    match script.sibling? input.scope condition.left with
    | some left => condition.holdsFor ((answers.get? left.path).getD "")
    | none => false

theorem Script.shows_iff {script : Script} {answers : Dict String} {input : Input} :
    script.shows answers input = true ↔
      input.condition = none ∨ ∃ condition left, input.condition = some condition ∧
        script.sibling? input.scope condition.left = some left ∧
        condition.holdsFor ((answers.get? left.path).getD "") = true := by
  unfold shows
  cases input.condition with
  | none => simp
  | some condition =>
      cases hleft : script.sibling? input.scope condition.left with
      | none => simp [hleft]
      | some left => simp [hleft]

theorem Script.shows_congr {script : Script} {answers others : Dict String} {input : Input}
    (h : ∀ condition left, input.condition = some condition →
      script.sibling? input.scope condition.left = some left →
      answers.get? left.path = others.get? left.path) :
    script.shows answers input = script.shows others input := by
  unfold shows
  cases hcondition : input.condition with
  | none => rfl
  | some condition =>
      cases hleft : script.sibling? input.scope condition.left with
      | none => simp [hleft]
      | some left => simp [hleft, h condition left hcondition hleft]

namespace Conversation

variable {κ : Type} {c : Conversation} {store : Store κ}

theorem exists_form_of_pending? {input : Input} (h : c.pending? store = some input) :
    ∃ form ∈ c.script.forms, input ∈ form.inputs := by
  unfold pending? at h
  split at h
  · split at h
    · cases h
    · exact Script.exists_form_of_input? h
  · cases h

theorem exists_form_of_next? {next : Input} (h : c.next? store = some next) :
    ∃ form ∈ c.script.forms, next ∈ form.inputs := by
  obtain ⟨pending, _, hnext⟩ := Option.bind_eq_some_iff.mp h
  exact Script.exists_form_of_nextInput? hnext

theorem pending?_of_intact (h : store.broken = []) :
    c.pending? store =
      if store.snapshot.value c.keys.pointer = "" then none
      else c.script.input? (store.snapshot.value c.keys.pointer) := by
  rw [pending?, Store.get_of_intact h]

theorem answers_of_intact (h : store.broken = []) :
    c.answers store = store.snapshot.hash c.keys.answers := by
  rw [answers, Store.getHash_of_intact h]

theorem answerAt_of_intact (h : store.broken = []) (path : String) :
    c.answerAt path store = ((store.snapshot.hash c.keys.answers).get? path).getD "" := by
  rw [answerAt, Store.getHashValue_of_intact h]
  rfl

theorem isVisible_of_intact (h : store.broken = []) (input : Input) :
    c.isVisible input store = c.script.shows (store.snapshot.hash c.keys.answers) input := by
  unfold isVisible Script.shows
  cases input.condition with
  | none => rfl
  | some condition =>
      cases hleft : c.script.sibling? input.scope condition.left with
      | none => simp [hleft]
      | some left => simp [hleft, answerAt_of_intact h]

end Conversation

end Colloquy
