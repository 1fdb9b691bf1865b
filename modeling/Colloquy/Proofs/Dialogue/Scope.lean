import Colloquy.Proofs.Dialogue.Consistency
import Colloquy.Proofs.Script.Clause
import Colloquy.Proofs.Script.WellFormed
import Mathlib.Data.List.TakeWhile

/-!
What a condition looks at.  Its operand is found by a path, and a path does not always tell a form
from the inputs in it: an identifier with a slash in it may take a part of its path from the form.
-/

namespace Colloquy

/-- Two paths are the same only if they are made of the same parts, or if the longer identifier goes
back over the end of the other scope. -/
theorem inputPath_eq_iff {scope scope' id id' : String} (hid : '/' ∉ id.toList) :
    inputPath scope' id' = inputPath scope id ↔
      scope' = scope ∧ id' = id ∨
        ∃ part, id' = inputPath part id ∧ scope = inputPath scope' part := by
  constructor
  · intro h
    have hchars : scope'.toList ++ '/' :: id'.toList = scope.toList ++ '/' :: id.toList := by
      simpa [inputPath] using congrArg String.toList h
    rcases List.append_eq_append_iff.mp hchars with ⟨back, hscope, hrest⟩ | ⟨back, hscope, hrest⟩
    · cases back with
      | nil =>
          refine .inl ⟨String.toList_inj.mp ?_, String.toList_inj.mp (List.cons.inj hrest).2⟩
          rw [hscope, List.append_nil]
      | cons c part =>
          obtain ⟨rfl, hid'⟩ := List.cons.inj hrest
          refine .inr ⟨String.ofList part, String.toList_inj.mp ?_, String.toList_inj.mp ?_⟩
          · simpa [inputPath] using hid'
          · simpa [inputPath] using hscope
    · cases back with
      | nil =>
          refine .inl ⟨String.toList_inj.mp ?_, String.toList_inj.mp (List.cons.inj hrest).2.symm⟩
          rw [hscope, List.append_nil]
      | cons c part =>
          have hmem : '/' ∈ id.toList := by
            rw [(List.cons.inj hrest).2]
            simp
          exact absurd hmem hid
  · rintro (⟨rfl, rfl⟩ | ⟨part, rfl, rfl⟩)
    · rfl
    · simp only [inputPath, String.append_assoc]

namespace Condition

theorem isWord_of_mem_left {raw : String} {condition : Condition}
    (h : parse? raw = some condition) {c : Char} (hc : c ∈ condition.left.toList) :
    Text.isWord c = true := by
  have hfirst := first_clause (Text.stripBlanks raw).toList
  rw [parse?] at h
  generalize firstClause? [] (Text.stripBlanks raw).toList = result at h hfirst
  cases hfirst with
  | missing _ => cases h
  | found _ _ =>
      obtain rfl := Option.some.inj h
      rw [String.toList_ofList, lastWord, List.mem_reverse] at hc
      exact List.mem_takeWhile_imp hc

end Condition

namespace Script

variable {script : Script} {scope id : String}

def Declares (script : Script) (input : Input) : Prop :=
  ∃ form ∈ script.forms, input ∈ form.inputs

/-- The input is the one of that scope with that identifier. -/
def Owned (scope id : String) (input : Input) : Prop := input.scope = scope ∧ input.id = id

/-- The input is of another scope, but its identifier reaches over: it ends in the one looked for,
and what comes before that makes up the end of the scope. -/
def Strays (scope id : String) (input : Input) : Prop :=
  ∃ part, input.id = inputPath part id ∧ scope = inputPath input.scope part

theorem InputsNamed.path_eq (h : script.InputsNamed) {input : Input}
    (hinput : script.Declares input) : input.path = inputPath input.scope input.id := by
  obtain ⟨form, hform, hinput⟩ := hinput
  rw [h.path form hform input hinput, h.scope form hform input hinput]

theorem WellFormed.slash_not_mem (h : script.WellFormed) {input : Input}
    (hinput : script.Declares input) {condition : Condition}
    (hcondition : input.condition = some condition) : '/' ∉ condition.left.toList := by
  obtain ⟨form, hform, hinput⟩ := hinput
  rw [(h.conditions form hform input hinput).2] at hcondition
  intro hmem
  have hword := Condition.isWord_of_mem_left hcondition hmem
  exact absurd hword (by decide)

/-- A look-up by path finds something if and only if some input has the parts of the path, or some
input strays there. -/
theorem WellFormed.exists_sibling?_iff (h : script.WellFormed) (hid : '/' ∉ id.toList) :
    (∃ found, script.sibling? scope id = some found) ↔
      ∃ input, script.Declares input ∧ (Owned scope id input ∨ Strays scope id input) := by
  constructor
  · rintro ⟨found, hfound⟩
    have hdeclared : script.Declares found := exists_form_of_input? hfound
    have hpath := path_input? hfound
    rw [h.named.path_eq hdeclared] at hpath
    exact ⟨found, hdeclared, (inputPath_eq_iff hid).mp hpath⟩
  · rintro ⟨input, hdeclared, hparts⟩
    have hpath : input.path = inputPath scope id := by
      rw [h.named.path_eq hdeclared, inputPath_eq_iff hid]
      exact hparts
    obtain ⟨form, hform, hinput⟩ := hdeclared
    obtain ⟨place, hplace⟩ := h.inputs form hform input hinput
    obtain ⟨_, found, _, _, _, hfound⟩ := h.places input.path place hplace
    exact ⟨found, by rw [sibling?, ← hpath, hfound]⟩

end Script

namespace Conversation

open Session (Store)

variable {κ : Type} {c : Conversation}

theorem isVisible_iff {input : Input} {condition : Condition}
    (hcondition : input.condition = some condition) (store : Store κ) :
    c.isVisible input store = true ↔
      (∃ found, c.script.sibling? input.scope condition.left = some found) ∧
        condition.holdsFor (c.answerAt (inputPath input.scope condition.left) store) = true := by
  rw [isVisible, hcondition]
  cases hfound : c.script.sibling? input.scope condition.left with
  | none => simp [hfound]
  | some found => simp [hfound, Script.path_input? hfound]

/-- An input with a condition is visible if and only if the condition holds of what is stored, and
its operand is an input of the same form or one that strays there.  As long as no identifier of an
input has a slash in it none strays, and a condition on anything outside the form never holds. -/
theorem visible_by_operand {source fallbackId : String}
    (hcompiled : Script.compile source fallbackId = .ok c.script) {input : Input}
    (hinput : c.script.Declares input) {condition : Condition}
    (hcondition : input.condition = some condition) (store : Store κ) :
    (c.isVisible input store = true ↔
      (∃ operand, c.script.Declares operand ∧
        (Script.Owned input.scope condition.left operand ∨
          Script.Strays input.scope condition.left operand)) ∧
        condition.holdsFor (c.answerAt (inputPath input.scope condition.left) store) = true) ∧
    ((∀ other, c.script.Declares other → '/' ∉ other.id.toList) →
      c.isVisible input store = true → ∃ operand, c.script.Declares operand ∧
        operand.scope = input.scope ∧ operand.id = condition.left) := by
  have hformed := Script.compile_wellFormed hcompiled
  have hslash := hformed.slash_not_mem hinput hcondition
  have hvisible := isVisible_iff (c := c) hcondition store
  rw [hformed.exists_sibling?_iff hslash] at hvisible
  refine ⟨hvisible, fun hplain hshown => ?_⟩
  obtain ⟨⟨operand, hdeclared, howned | ⟨part, hid, _⟩⟩, _⟩ := hvisible.mp hshown
  · exact ⟨operand, hdeclared, howned⟩
  · refine absurd ?_ (hplain operand hdeclared)
    rw [hid]
    simp [inputPath]

/-- A store in which some answers of a session are given. -/
def answered (c : Conversation) (answers : List (String × String)) : Store Session.Memory where
  keeper := {}
  snapshot := ⟨∅, .ofList [(c.keys.answers, .ofList answers)]⟩

theorem visible_by_operand_ticket :
    let wanted : Input := ⟨"f", "f/b", "b", "please write the required data", .text, [], "a==1",
      some ⟨"a", .equal, "1"⟩⟩
    ticketTalk.isVisible wanted (ticketTalk.answered [("f/a", "1")]) = true ∧
      ticketTalk.isVisible wanted (ticketTalk.answered [("f/a", "2")]) = false ∧
      ∃ operand, ticketTalk.script.Declares operand ∧ operand.scope = "f" ∧ operand.id = "a" := by
  intro wanted
  have hdeclared : ticketTalk.script.Declares wanted :=
    ⟨Script.ticketForm, List.mem_cons_self, List.mem_cons_of_mem _ List.mem_cons_self⟩
  have hplain : ∀ other, ticketTalk.script.Declares other → '/' ∉ other.id.toList := by
    rintro other ⟨form, hform, hother⟩
    obtain rfl : form = Script.ticketForm := List.mem_singleton.mp hform
    rcases List.mem_pair.mp hother with rfl | rfl <;> decide
  have hoperand : ∃ operand, ticketTalk.script.Declares operand ∧
      (Script.Owned "f" "a" operand ∨ Script.Strays "f" "a" operand) :=
    ⟨_, ⟨Script.ticketForm, List.mem_cons_self, List.mem_cons_self⟩, .inl ⟨rfl, rfl⟩⟩
  have hvisible := fun store : Store Session.Memory =>
    visible_by_operand (c := ticketTalk) Script.compile_ticketSource hdeclared rfl store
  have hshown : ticketTalk.isVisible wanted (ticketTalk.answered [("f/a", "1")]) = true :=
    (hvisible _).1.mpr ⟨hoperand, by decide +kernel⟩
  refine ⟨hshown, ?_, (hvisible _).2 hplain hshown⟩
  rw [Bool.eq_false_iff]
  intro hhidden
  exact absurd ((hvisible _).1.mp hhidden).2 (by decide +kernel)

/-- A form whose identifier starts like a path in another one, which has an input for the rest. -/
def shelfSource : String :=
  "<html><body><nav id=\"main\"/><form id=\"a\"><input id=\"b/c\"/></form>" ++
    "<form id=\"a/b\"><input id=\"x\" if=\"c==1\"/></form></body></html>"

def shelfInput : Input :=
  ⟨"a/b", "a/b/x", "x", "please write the required data", .text, [], "c==1",
    some ⟨"c", .equal, "1"⟩⟩

def shelfTalk : Conversation where
  engine.script := { Script.ticketScript with
    forms := [
      ⟨"a", "please follow the next steps", "Thank you", "", "post",
        [⟨"a", "a/b/c", "b/c", "please write the required data", .text, [], "", none⟩]⟩,
      ⟨"a/b", "please follow the next steps", "Thank you", "", "post", [shelfInput]⟩] }
  engine.composer := fun _ => .error .request
  session := "s"

theorem compile_shelfSource : Script.compile shelfSource "bot" = .ok shelfTalk.script := by
  decide +kernel

/-- An answer to another form makes an input visible whose condition names nothing in its form. -/
theorem visible_without_operand :
    Script.compile shelfSource "bot" = .ok shelfTalk.script ∧
    shelfTalk.script.Declares shelfInput ∧ shelfInput.condition = some ⟨"c", .equal, "1"⟩ ∧
    (¬ ∃ operand, shelfTalk.script.Declares operand ∧ operand.scope = shelfInput.scope ∧
      operand.id = "c") ∧
    shelfTalk.isVisible shelfInput (shelfTalk.answered [("a/b/c", "1")]) = true := by
  refine ⟨compile_shelfSource, ?_, rfl, ?_, by decide +kernel⟩
  · exact ⟨_, List.mem_cons_of_mem _ List.mem_cons_self, List.mem_cons_self⟩
  · rintro ⟨operand, ⟨form, hform, hoperand⟩, hscope, hid⟩
    rcases List.mem_pair.mp hform with rfl | rfl
    · obtain rfl := List.mem_singleton.mp hoperand
      exact absurd hscope (by decide)
    · obtain rfl := List.mem_singleton.mp hoperand
      exact absurd hid (by decide)

end Conversation

end Colloquy
