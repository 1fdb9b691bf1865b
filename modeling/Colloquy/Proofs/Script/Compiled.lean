import Colloquy.Proofs.Except
import Colloquy.Proofs.Script.Places
import Colloquy.Script.Compile

/-!
What holds of every compiled script.
-/

namespace Colloquy

namespace Script

open Markup (Element)

variable {script : Script}

theorem ofElement_eq_ok {root : Element} {fallbackId : String}
    (h : ofElement root fallbackId = .ok script) :
    root.name = rootName ∧ ∃ flows templates,
      (bodyElements root "nav").zipIdx.mapM (fun (e, index) => compileFlow e index) = .ok flows ∧
      flows.any (·.id = entryFlowId) = true ∧
      (bodyElements root "template").mapM (fun e => compileTemplate e) = .ok templates ∧
      script = {
        id := orDefault (root.attr "id") fallbackId
        version := root.attr "version"
        configs := compileConfigs root
        flows
        forms := (bodyElements root "form").zipIdx.map fun (e, index) => compileForm e index
        templates } := by
  unfold ofElement at h
  by_cases hname : root.name = rootName
  · simp only [hname, ne_eq, not_true_eq_false, ↓reduceIte] at h
    obtain ⟨flows, hflows, h⟩ := exists_of_bind_eq_ok h
    cases hentry : flows.any (·.id = entryFlowId) with
    | false =>
        rw [hentry] at h
        cases h
    | true =>
        rw [hentry] at h
        obtain ⟨templates, htemplates, h⟩ := exists_of_bind_eq_ok h
        exact ⟨hname, flows, templates, hflows, hentry, htemplates, (Except.ok.inj h).symm⟩
  · rw [if_pos hname] at h
    cases h

/-- Every input is named by its form: its scope is the form's identifier, and its path is made of
that and its own identifier. -/
structure InputsNamed (script : Script) : Prop where
  scope : ∀ form ∈ script.forms, ∀ input ∈ form.inputs, input.scope = form.id
  path : ∀ form ∈ script.forms, ∀ input ∈ form.inputs, input.path = inputPath form.id input.id

theorem compile_inputsNamed {source fallbackId : String}
    (h : compile source fallbackId = .ok script) : script.InputsNamed := by
  unfold compile at h
  split at h
  · next root _ =>
    obtain ⟨_, flows, templates, _, _, _, rfl⟩ := ofElement_eq_ok h
    have hinput : ∀ form ∈ (bodyElements root "form").zipIdx.map
        (fun (e, index) => compileForm e index), ∀ input ∈ form.inputs,
        input.scope = form.id ∧ input.path = inputPath form.id input.id := by
      intro form hform input hinput
      obtain ⟨⟨e, index⟩, _, rfl⟩ := List.mem_map.mp hform
      obtain ⟨⟨e', index'⟩, _, rfl⟩ := List.mem_map.mp hinput
      exact ⟨rfl, rfl⟩
    exact ⟨fun form hform input h => (hinput form hform input h).1,
      fun form hform input h => (hinput form hform input h).2⟩
  · cases h

theorem inputPath_ne_empty (scope id : String) : inputPath scope id ≠ "" := by
  intro h
  have hlength := congrArg String.length h
  simp [inputPath] at hlength

theorem InputsNamed.path_ne_empty (h : script.InputsNamed) {form : Form} {input : Input}
    (hform : form ∈ script.forms) (hinput : input ∈ form.inputs) : input.path ≠ "" := by
  rw [h.path form hform input hinput]
  exact inputPath_ne_empty form.id input.id

/-- Inputs can be told apart and know their form. -/
structure Legible (script : Script) : Prop where
  paths : script.DistinctPaths
  named : script.InputsNamed

namespace Legible

variable {form : Form} {input : Input}

theorem formOf?_eq (h : script.Legible) (hform : script.form? form.id = some form)
    (hinput : input ∈ form.inputs) : script.formOf? input = some form := by
  rw [formOf?, h.named.scope form (mem_of_form? hform).1 input hinput, hform]

theorem path_ne_empty (h : script.Legible) (hform : form ∈ script.forms)
    (hinput : input ∈ form.inputs) : input.path ≠ "" :=
  h.named.path_ne_empty hform hinput

end Legible

/-!
A script with a form, which asks for a ticket only those who want one.
-/

def ticketSource : String :=
  "<html><body><nav id=\"main\"/><form id=\"f\" action=\"http://a/\"><input id=\"a\"/>" ++
    "<input id=\"b\" if=\"a==1\"/></form></body></html>"

def ticketForm : Form where
  id := "f"
  title := "please follow the next steps"
  submit := "Thank you"
  action := "http://a/"
  method := "post"
  inputs := [⟨"f", "f/a", "a", "please write the required data", .text, [], "", none⟩,
    ⟨"f", "f/b", "b", "please write the required data", .text, [], "a==1",
      some ⟨"a", .equal, "1"⟩⟩]

def ticketScript : Script where
  id := "bot"
  version := ""
  configs := .ofList [("error", "Unhandled input :(")]
  flows := [⟨"main", "Please choose an action", []⟩]
  forms := [ticketForm]
  templates := []

theorem compile_ticketSource : compile ticketSource "bot" = .ok ticketScript := by
  decide +kernel

end Script

end Colloquy
