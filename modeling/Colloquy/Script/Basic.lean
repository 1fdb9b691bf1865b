import Colloquy.Dict
import Colloquy.Pattern.Matching
import Colloquy.Routing.Target
import Colloquy.Script.Condition
import Colloquy.Text.Lowercase

/-!
Scripts of conversations: menus of links, forms with their inputs, and replies to free text.  Where
an identifier or a path occurs several times, the last declaration counts.
-/

namespace Colloquy

structure Link where
  id : String
  text : String
  href : String
  target : Routing.Target
  reset : Bool
  embed : Bool
  ratio : String
deriving DecidableEq

structure Flow where
  id : String
  title : String
  links : List Link
deriving DecidableEq

inductive InputKind where
  | text
  | file
  | options
  | other (name : String)
deriving DecidableEq, Repr

namespace InputKind

/-- The kind by its name, whose case does not matter; no name means text. -/
def ofName (raw : String) : InputKind :=
  match Text.lowercase raw with
  | "" => .text
  | "text" => .text
  | "file" => .file
  | "options" => .options
  | name => .other name

def name : InputKind → String
  | .text => "text"
  | .file => "file"
  | .options => "options"
  | .other name => name

end InputKind

structure Choice where
  key : String
  text : String
deriving DecidableEq, Repr

/-- A question of a form.  Its namespace is the form that it was declared in. -/
structure Input where
  scope : String
  path : String
  id : String
  title : String
  kind : InputKind
  options : List Choice
  conditionText : String
  condition : Option Condition
deriving DecidableEq, Repr

def inputPath (scope id : String) : String := scope ++ "/" ++ id

structure Form where
  id : String
  title : String
  submit : String
  action : String
  method : String
  inputs : List Input
deriving DecidableEq, Repr

structure ReplyAttachment where
  kind : String
  source : String
deriving DecidableEq, Repr

structure Reply where
  label : Option String
  attachment : Option ReplyAttachment
deriving DecidableEq, Repr

structure Template where
  pattern : Pattern
  replies : List Reply
deriving DecidableEq

structure Script where
  id : String
  version : String
  configs : Dict String
  flows : List Flow
  forms : List Form
  templates : List Template
deriving DecidableEq

/-- Where an input is declared: the position of its form, and its own position in that form. -/
structure Place where
  form : Nat
  input : Nat
deriving DecidableEq, Repr

/-- The last item of a list that satisfies `p`. -/
def findLast? {α : Type} (p : α → Bool) (items : List α) : Option α := (items.filter p).getLast?

/-- The position of the last item that satisfies `p`. -/
def lastIndex? {α : Type} (p : α → Bool) : List α → Option Nat
  | [] => none
  | item :: items =>
    match lastIndex? p items with
    | some index => some (index + 1)
    | none => if p item then some 0 else none

theorem lastIndex?_lt {α : Type} {p : α → Bool} {items : List α} {k : Nat}
    (h : lastIndex? p items = some k) : k < items.length := by
  induction items generalizing k with
  | nil => simp [lastIndex?] at h
  | cons item items ih =>
    rw [lastIndex?] at h
    split at h
    · next index hindex =>
      cases h
      simpa using ih hindex
    · split at h
      · cases h
        exact Nat.succ_pos _
      · cases h

theorem exists_of_lastIndex? {α : Type} {p : α → Bool} {items : List α} {k : Nat}
    (h : lastIndex? p items = some k) : ∃ item, items[k]? = some item ∧ p item = true := by
  induction items generalizing k with
  | nil => simp [lastIndex?] at h
  | cons first items ih =>
    rw [lastIndex?] at h
    split at h
    · next index hindex =>
      cases h
      simpa using ih hindex
    · split at h
      · next hp =>
        cases h
        exact ⟨first, rfl, hp⟩
      · cases h

/-- No item that satisfies `p` comes after the last one. -/
theorem le_of_lastIndex? {α : Type} {p : α → Bool} {items : List α} {j : Nat} {item : α}
    (hitem : items[j]? = some item) (hp : p item = true) :
    ∃ k, lastIndex? p items = some k ∧ j ≤ k := by
  induction items generalizing j with
  | nil => simp at hitem
  | cons first items ih =>
    cases j with
    | zero =>
      cases hlast : lastIndex? p items with
      | some k => exact ⟨k + 1, by simp [lastIndex?, hlast], by omega⟩
      | none =>
        have : first = item := by simpa using hitem
        exact ⟨0, by simp [lastIndex?, hlast, this, hp], Nat.le_refl _⟩
    | succ j =>
      obtain ⟨k, hk, hle⟩ := ih (by simpa using hitem)
      exact ⟨k + 1, by simp [lastIndex?, hk], by omega⟩

namespace Flow

def link? (flow : Flow) (id : String) : Option Link := findLast? (·.id = id) flow.links

end Flow

namespace Form

def firstInput? (form : Form) : Option Input := form.inputs.head?

end Form

namespace Script

def entryFlowId : String := "main"

def errorKey : String := "error"

def defaultErrorText : String := "Unhandled input :("

def flow? (script : Script) (id : String) : Option Flow := findLast? (·.id = id) script.flows

def mainFlow? (script : Script) : Option Flow := script.flow? entryFlowId

def form? (script : Script) (id : String) : Option Form := findLast? (·.id = id) script.forms

/-- All inputs with their places, in the order of declaration. -/
def entries (script : Script) : List (Place × Input) :=
  script.forms.zipIdx.flatMap fun (form, i) =>
    form.inputs.zipIdx.map fun (input, j) => (⟨i, j⟩, input)

def rank? (script : Script) (path : String) : Option Nat :=
  lastIndex? (·.2.path = path) script.entries

def place? (script : Script) (path : String) : Option Place := do
  let rank ← script.rank? path
  return (← script.entries[rank]?).1

def input? (script : Script) (path : String) : Option Input := do
  let rank ← script.rank? path
  return (← script.entries[rank]?).2

/-- The input declared right after the one at `rank`, in the same form. -/
def inputAfter? (script : Script) (rank : Nat) : Option Input := do
  let (place, _) ← script.entries[rank]?
  let (next, input) ← script.entries[rank + 1]?
  if next.form = place.form then some input else none

/-- The input declared right after the place of this one's path. -/
def nextInput? (script : Script) (input : Input) : Option Input := do
  script.inputAfter? (← script.rank? input.path)

def formOf? (script : Script) (input : Input) : Option Form := script.form? input.scope

/-- An input of the form that is named by `scope`: the only inputs that a condition can refer to. -/
def sibling? (script : Script) (scope id : String) : Option Input :=
  script.input? (inputPath scope id)

/-- A value that is set and not empty. -/
def config? (script : Script) (key : String) : Option String :=
  (script.configs.get? key).filter (· ≠ "")

def errorText (script : Script) : String := (script.config? errorKey).getD defaultErrorText

/-- Going on from one input to the next leads on among the declared inputs, even if the path of the
next one is declared again. -/
theorem rank?_inputAfter {script : Script} {rank : Nat} {next : Input}
    (h : script.inputAfter? rank = some next) :
    ∃ k, script.rank? next.path = some k ∧ rank < k := by
  simp only [inputAfter?, bind, Option.bind_eq_some_iff] at h
  obtain ⟨_, _, ⟨place, input⟩, hentry, hsame⟩ := h
  split at hsame
  · cases hsame
    obtain ⟨k, hk, hle⟩ := le_of_lastIndex? (p := fun e => decide (e.2.path = input.path))
      hentry (by simp)
    exact ⟨k, hk, by omega⟩
  · cases hsame

theorem path_input? {script : Script} {path : String} {input : Input}
    (h : script.input? path = some input) : input.path = path := by
  simp only [input?, bind, Option.bind_eq_some_iff] at h
  obtain ⟨rank, hrank, entry, hentry, hinput⟩ := h
  obtain ⟨item, hitem, hpath⟩ := exists_of_lastIndex? hrank
  cases hinput
  rw [hentry] at hitem
  cases hitem
  simpa using hpath

theorem rank?_lt {script : Script} {path : String} {rank : Nat}
    (h : script.rank? path = some rank) : rank < script.entries.length :=
  lastIndex?_lt h

end Script

end Colloquy
