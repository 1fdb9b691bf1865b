import Colloquy.Proofs.Script.Compiled

/-!
Compiled scripts are in order: whatever an author leaves out, repeats or lets collide, everything
has an identifier, every look-up of one that occurs finds something, and inputs know their form.
-/

namespace Colloquy

/-- Looking an item up by its key goes by positions: there is one for each key that occurs, and at
each of them stands an item with the key, which is the one that is found. -/
structure Resolves {α : Type} (items : List α) (key : α → String) (find? : String → Option α) :
    Prop where
  position : ∀ item ∈ items, ∃ position, lastIndex? (key · = key item) items = some position
  found : ∀ name position, lastIndex? (key · = name) items = some position →
    ∃ item, items[position]? = some item ∧ key item = name ∧ find? name = some item

theorem resolves_findLast? {α : Type} (items : List α) (key : α → String) :
    Resolves items key fun name => findLast? (key · = name) items where
  position := by
    intro item hitem
    obtain ⟨index, hindex⟩ := List.getElem?_of_mem hitem
    obtain ⟨last, hlast, _⟩ := le_of_lastIndex? (p := (key · = key item)) hindex (by simp)
    exact ⟨last, hlast⟩
  found := by
    intro name position hposition
    obtain ⟨item, hitem, hkey⟩ := exists_of_lastIndex? hposition
    exact ⟨item, hitem, by simpa using hkey, by rw [findLast?_eq_bind, hposition]; exact hitem⟩

theorem Resolves.exists_found {α : Type} {items : List α} {key : α → String}
    {find? : String → Option α} (h : Resolves items key find?) {item : α} (hitem : item ∈ items) :
    ∃ found ∈ items, find? (key item) = some found ∧ key found = key item := by
  obtain ⟨position, hposition⟩ := h.position item hitem
  obtain ⟨found, hfound, hkey, hfind⟩ := h.found (key item) position hposition
  exact ⟨found, List.mem_of_getElem? hfound, hfind, hkey⟩

theorem orDefault_ne_empty {default : String} (h : default ≠ "") (raw : String) :
    orDefault raw default ≠ "" := by
  unfold orDefault
  split
  · exact h
  · next hraw => exact hraw

theorem orPosition_ne_empty {stem : String} (h : stem ≠ "") (raw : String) (index : Nat) :
    orPosition raw stem index ≠ "" := by
  refine orDefault_ne_empty (fun hempty => h ?_) raw
  exact (String.append_eq_empty_iff.mp hempty).1

namespace Script

open Markup (Element)

variable {script : Script} {form : Form} {input : Input}

/-- A script in which nothing is nameless and nothing that is looked up is missing. -/
structure WellFormed (script : Script) : Prop where
  mainFlow : ∃ flow, script.mainFlow? = some flow ∧ flow.id = entryFlowId
  errorText : script.configs.get? errorKey = some script.errorText ∧ script.errorText ≠ ""
  flowIds : ∀ flow ∈ script.flows, flow.id ≠ ""
  linkIds : ∀ flow ∈ script.flows, ∀ link ∈ flow.links, link.id ≠ ""
  formIds : ∀ form ∈ script.forms, form.id ≠ ""
  inputIds : ∀ form ∈ script.forms, ∀ input ∈ form.inputs, input.id ≠ ""
  named : script.InputsNamed
  flows : Resolves script.flows Flow.id script.flow?
  links : ∀ flow ∈ script.flows, Resolves flow.links Link.id flow.link?
  forms : Resolves script.forms Form.id script.form?
  inputs : ∀ form ∈ script.forms, ∀ input ∈ form.inputs, ∃ place,
    script.place? input.path = some place
  places : ∀ path place, script.place? path = some place → ∃ form input,
    script.forms[place.form]? = some form ∧ form.inputs[place.input]? = some input ∧
      input.path = path ∧ script.input? path = some input
  owned : ∀ form ∈ script.forms, ∀ input ∈ form.inputs, ∃ owner,
    script.formOf? input = some owner
  foundOwned : ∀ path input, script.input? path = some input → ∃ owner,
    script.formOf? input = some owner
  nextOwned : ∀ input next, script.nextInput? input = some next → ∃ owner,
    script.formOf? next = some owner
  conditions : ∀ form ∈ script.forms, ∀ input ∈ form.inputs,
    (∀ c ∈ input.conditionText.toList, Text.isBlank c = false) ∧
      input.condition = Condition.parse? input.conditionText

/-!
Look-ups in any script.
-/

theorem resolves_flow? (script : Script) : Resolves script.flows Flow.id script.flow? :=
  resolves_findLast? script.flows Flow.id

theorem resolves_form? (script : Script) : Resolves script.forms Form.id script.form? :=
  resolves_findLast? script.forms Form.id

theorem exists_place? (hform : form ∈ script.forms) (hinput : input ∈ form.inputs) :
    ∃ place, script.place? input.path = some place := by
  obtain ⟨i, hi⟩ := List.getElem?_of_mem hform
  obtain ⟨j, hj⟩ := List.getElem?_of_mem hinput
  have hentry : ((⟨i, j⟩, input) : Place × Input) ∈ script.entries :=
    mem_entries_iff.mpr ⟨form, hi, hj⟩
  obtain ⟨index, hindex⟩ := List.getElem?_of_mem hentry
  obtain ⟨rank, hrank, _⟩ := le_of_lastIndex? (p := (·.2.path = input.path)) hindex (by simp)
  obtain ⟨entry, hlast, _⟩ := exists_of_lastIndex? hrank
  exact ⟨entry.1, by simp [place?, rank?, hrank, hlast]⟩

theorem exists_input_at_place? {path : String} {place : Place}
    (h : script.place? path = some place) :
    ∃ form input, script.forms[place.form]? = some form ∧
      form.inputs[place.input]? = some input ∧ input.path = path ∧
        script.input? path = some input := by
  simp only [place?, bind, Option.bind_eq_some_iff] at h
  obtain ⟨rank, hrank, entry, hentry, hplace⟩ := h
  cases hplace
  obtain ⟨form, hform, hinput⟩ := mem_entries_iff.mp (List.mem_of_getElem? hentry)
  have hfound : script.input? path = some entry.2 := by simp [input?, hrank, hentry]
  exact ⟨form, entry.2, hform, hinput, path_input? hfound, hfound⟩

theorem InputsNamed.exists_formOf? (h : script.InputsNamed) (hform : form ∈ script.forms)
    (hinput : input ∈ form.inputs) : ∃ owner, script.formOf? input = some owner := by
  obtain ⟨owner, _, hfound, _⟩ := script.resolves_form?.exists_found hform
  exact ⟨owner, by rw [formOf?, h.scope form hform input hinput, hfound]⟩

/-!
Scripts from markup.
-/

theorem errorText_of_get? {text : String} (h : script.configs.get? errorKey = some text)
    (hne : text ≠ "") : script.errorText = text := by
  simp [errorText, config?, Option.filter, h, hne]

theorem get?_compileConfigs (root : Element) :
    ∃ text, (compileConfigs root).get? errorKey = some text ∧ text ≠ "" :=
  ⟨_, by rw [compileConfigs, Dict.get?_insert, if_pos rfl], orDefault_ne_empty (by decide) _⟩

theorem compileLink_eq_ok {e : Element} {index : Nat} {link : Link}
    (h : compileLink e index = .ok link) :
    link.id = orPosition (e.attr "id") "link" index ∧ link.target = .ofHref link.href := by
  obtain ⟨reset, _, h⟩ := exists_of_bind_eq_ok h
  obtain ⟨embed, _, h⟩ := exists_of_bind_eq_ok h
  obtain rfl := Except.ok.inj h
  exact ⟨rfl, rfl⟩

theorem compileFlow_eq_ok {e : Element} {index : Nat} {flow : Flow}
    (h : compileFlow e index = .ok flow) :
    flow.id = orPosition (e.attr "id") "nav" index ∧
      (e.elementsNamed "a").zipIdx.mapM (fun (link, index) => compileLink link index) =
        .ok flow.links := by
  obtain ⟨links, hlinks, h⟩ := exists_of_bind_eq_ok h
  obtain rfl := Except.ok.inj h
  exact ⟨rfl, hlinks⟩

theorem ids_of_compileFlow {e : Element} {index : Nat} {flow : Flow}
    (h : compileFlow e index = .ok flow) : flow.id ≠ "" ∧ ∀ link ∈ flow.links, link.id ≠ "" := by
  obtain ⟨hid, hlinks⟩ := compileFlow_eq_ok h
  refine ⟨hid ▸ orPosition_ne_empty (by decide) _ _, fun link hlink => ?_⟩
  obtain ⟨_, _, hcompiled⟩ := exists_of_mem_mapM hlinks hlink
  rw [(compileLink_eq_ok hcompiled).1]
  exact orPosition_ne_empty (by decide) _ _

theorem compileInput_conditions (scope : String) (e : Element) (index : Nat) :
    (∀ c ∈ (compileInput scope e index).conditionText.toList, Text.isBlank c = false) ∧
      (compileInput scope e index).condition =
        Condition.parse? (compileInput scope e index).conditionText := by
  have htext : (compileInput scope e index).conditionText = Text.stripBlanks (e.attr "if") := rfl
  have hcondition : (compileInput scope e index).condition =
      Condition.parse? (Text.stripBlanks (e.attr "if")) := by simp only [compileInput]
  refine ⟨fun c hc => ?_, by rw [hcondition, htext]⟩
  rw [htext] at hc
  exact Text.not_isBlank_of_mem_stripBlanks hc

theorem exists_mainFlow? {flows : List Flow} (hflows : script.flows = flows)
    (hentry : flows.any (·.id = entryFlowId) = true) :
    ∃ flow, script.mainFlow? = some flow ∧ flow.id = entryFlowId := by
  obtain ⟨entry, hmem, hid⟩ := List.any_eq_true.mp hentry
  have hid : entry.id = entryFlowId := by simpa using hid
  obtain ⟨flow, _, hfound, hsame⟩ := script.resolves_flow?.exists_found (hflows ▸ hmem)
  rw [hid] at hfound hsame
  exact ⟨flow, hfound, hsame⟩

theorem ofElement_wellFormed {root : Element} {fallbackId : String}
    (h : ofElement root fallbackId = .ok script) (hnamed : script.InputsNamed) :
    script.WellFormed := by
  obtain ⟨_, flows, templates, hflows, hentry, _, hscript⟩ := ofElement_eq_ok h
  have hflowsEq : script.flows = flows := by rw [hscript]
  have hforms : script.forms =
      (bodyElements root "form").zipIdx.map fun (e, index) => compileForm e index := by rw [hscript]
  have hconfigs : script.configs = compileConfigs root := by rw [hscript]
  have hflowIds : ∀ flow ∈ script.flows, flow.id ≠ "" ∧ ∀ link ∈ flow.links, link.id ≠ "" := by
    intro flow hflow
    obtain ⟨_, _, hcompiled⟩ := exists_of_mem_mapM hflows (hflowsEq ▸ hflow)
    exact ids_of_compileFlow hcompiled
  have hcompiled : ∀ form ∈ script.forms, ∃ e index, form = compileForm e index := by
    intro form hform
    rw [hforms] at hform
    obtain ⟨⟨e, index⟩, _, rfl⟩ := List.mem_map.mp hform
    exact ⟨e, index, rfl⟩
  have hinputs : ∀ form ∈ script.forms, ∀ input ∈ form.inputs, ∃ scope e index,
      input = compileInput scope e index := by
    intro form hform input hinput
    obtain ⟨e, index, rfl⟩ := hcompiled form hform
    obtain ⟨⟨e', index'⟩, _, rfl⟩ := List.mem_map.mp hinput
    exact ⟨_, e', index', rfl⟩
  obtain ⟨text, htext, hne⟩ := get?_compileConfigs root
  rw [← hconfigs] at htext
  have herror : script.errorText = text := errorText_of_get? htext hne
  exact {
    mainFlow := exists_mainFlow? hflowsEq hentry
    errorText := ⟨herror ▸ htext, herror ▸ hne⟩
    flowIds := fun flow hflow => (hflowIds flow hflow).1
    linkIds := fun flow hflow => (hflowIds flow hflow).2
    formIds := by
      intro form hform
      obtain ⟨e, index, rfl⟩ := hcompiled form hform
      exact orPosition_ne_empty (by decide) _ _
    inputIds := by
      intro form hform input hinput
      obtain ⟨scope, e, index, rfl⟩ := hinputs form hform input hinput
      exact orPosition_ne_empty (by decide) _ _
    named := hnamed
    flows := script.resolves_flow?
    links := fun flow _ => resolves_findLast? flow.links Link.id
    forms := script.resolves_form?
    inputs := fun form hform input hinput => exists_place? hform hinput
    places := fun path place => exists_input_at_place?
    owned := fun form hform input hinput => hnamed.exists_formOf? hform hinput
    foundOwned := by
      intro path input hfound
      obtain ⟨form, hform, hinput⟩ := exists_form_of_input? hfound
      exact hnamed.exists_formOf? hform hinput
    nextOwned := by
      intro input next hnext
      obtain ⟨form, hform, hinput⟩ := exists_form_of_nextInput? hnext
      exact hnamed.exists_formOf? hform hinput
    conditions := by
      intro form hform input hinput
      obtain ⟨scope, e, index, rfl⟩ := hinputs form hform input hinput
      exact compileInput_conditions scope e index }

theorem compile_wellFormed {source fallbackId : String}
    (h : compile source fallbackId = .ok script) : script.WellFormed := by
  have hnamed := compile_inputsNamed h
  unfold compile at h
  split at h
  · exact ofElement_wellFormed h hnamed
  · cases h

end Script

end Colloquy
