import Colloquy.Proofs.Script.WellFormed

/-!
Why a source is no script.  There are five grounds, of which the first that applies is reported,
for the first element that it applies to.  Heads, forms and elements that mean nothing in a script
are no ground.
-/

namespace Colloquy

section

variable {α β : Type}

/-- The first item of a list that has a property. -/
structure IsFirst (p : α → Prop) (items : List α) (item : α) : Prop where
  holds : p item
  earliest : ∃ front back, items = front ++ item :: back ∧ ∀ earlier ∈ front, ¬ p earlier

theorem IsFirst.mem {p : α → Prop} {items : List α} {item : α} (h : IsFirst p items item) :
    item ∈ items := by
  obtain ⟨front, back, rfl, _⟩ := h.earliest
  simp

theorem findSome?_eq_some_iff_isFirst {f : α → Option β} {p : α → Prop} {items : List α}
    (h : ∀ item, f item = none ↔ ¬ p item) {result : β} :
    items.findSome? f = some result ↔ ∃ item, IsFirst p items item ∧ f item = some result := by
  rw [List.findSome?_eq_some_iff]
  constructor
  · rintro ⟨front, item, back, rfl, hresult, hfront⟩
    refine ⟨item, ⟨?_, front, back, rfl, fun earlier he => (h earlier).mp (hfront earlier he)⟩,
      hresult⟩
    exact not_not.mp fun hp => by simp [(h item).mpr hp] at hresult
  · rintro ⟨item, ⟨_, front, back, rfl, hfront⟩, hresult⟩
    exact ⟨front, item, back, rfl, hresult, fun earlier he => (h earlier).mpr (hfront earlier he)⟩

end

namespace Script

open Markup (Element)

variable {root : Element} {parse : Markup.Reader} {read : Pattern.Reader}

/-- The ways to write a truth value. -/
def truthSpellings : List String :=
  ["1", "t", "T", "true", "TRUE", "True", "0", "f", "F", "false", "FALSE", "False"]

/-- The attribute is there and not blank, but is no way to write a truth value. -/
def Garbled (e : Element) (key : String) : Prop :=
  Text.trim (e.attr key) ≠ "" ∧ Text.trim (e.attr key) ∉ truthSpellings

instance (e : Element) (key : String) : Decidable (Garbled e key) :=
  inferInstanceAs (Decidable (_ ∧ _))

def GarbledLink (e : Element) : Prop := Garbled e "reset" ∨ Garbled e "embed"

/-- The links of all flows, in document order. -/
def linkElements (root : Element) : List Element :=
  (bodyElements root "nav").flatMap (·.elementsNamed "a")

def HasEntry (root : Element) : Prop := ∃ nav ∈ bodyElements root "nav", nav.attr "id" = "main"

/-- The text to match is refused as a pattern. -/
def Unmatchable (read : Pattern.Reader) (e : Element) : Prop :=
  ∃ refusal, read (e.attr "match") = .error refusal

/-- Why a document is no script, if `read` tells which texts are patterns. -/
inductive Unfit (read : Pattern.Reader) (root : Element) : Report → Prop where
  | root (name : root.name ≠ "html") :
      Unfit read root ⟨"XML_ROOT_INVALID",
        s!"Expected <html> as root element, found <{root.name}>.", some root.span⟩
  | boolean {e : Element} {key : String} (name : root.name = "html")
      (first : IsFirst GarbledLink (linkElements root) e)
      (named : key = if Garbled e "reset" then "reset" else "embed") :
      Unfit read root ⟨"XML_ATTR_BOOL_INVALID", s!"Attribute \"{key}\" on <a> must be a boolean.",
        some e.span⟩
  | entryFlowMissing (name : root.name = "html")
      (links : ∀ e ∈ linkElements root, ¬ GarbledLink e) (missing : ¬ HasEntry root) :
      Unfit read root ⟨"ENTRY_FLOW_MISSING",
        "Cannot find the entry flow (<nav id=\"main\"> ... </nav>).", none⟩
  | pattern {e : Element} {source : String} {refusal : Pattern.Refusal}
      (name : root.name = "html") (links : ∀ e ∈ linkElements root, ¬ GarbledLink e)
      (entry : HasEntry root) (first : IsFirst (Unmatchable read) (bodyElements root "template") e)
      (text : source = e.attr "match") (refused : read source = .error refusal) :
      Unfit read root ⟨"TEMPLATE_PATTERN_INVALID",
        s!"Invalid template pattern \"{source}\": {refusal.message source}", some e.span⟩

/-- Why a text is no script, if `parse` tells which texts are documents. -/
inductive Refused (parse : Markup.Reader) (read : Pattern.Reader) (source : String) :
    Report → Prop where
  | markup {fault : Markup.Fault} (rejected : parse source = .error fault) :
      Refused parse read source ⟨"XML_PARSE_ERROR", fault.message, none⟩
  | document {root : Element} {report : Report} (parsed : parse source = .ok root)
      (unfit : Unfit read root report) : Refused parse read source report

/-!
What each part of a compilation fails with.
-/

theorem boolean?_eq_none_iff (raw : String) :
    boolean? raw = none ↔ Text.trim raw ≠ "" ∧ Text.trim raw ∉ truthSpellings := by
  unfold boolean?
  split <;> simp_all [truthSpellings]

def booleanFault? (e : Element) (key : String) : Option CompileFault :=
  if Garbled e key then some (.boolean key e.name e.span) else none

def linkFault? (e : Element) : Option CompileFault :=
  (booleanFault? e "reset").or (booleanFault? e "embed")

def templateFault? (read : Pattern.Reader) (e : Element) : Option CompileFault :=
  (failure? (read (e.attr "match"))).map (.pattern (e.attr "match") · e.span)

def entryFault? (root : Element) : Option CompileFault :=
  if (bodyElements root "nav").any (·.attr "id" = entryFlowId) then none else some .entryFlowMissing

def rootFault? (root : Element) : Option CompileFault :=
  if root.name = rootName then none else some (.root root.name root.span)

/-- Everything that can be wrong with a document, in order. -/
def fault? (read : Pattern.Reader) (root : Element) : Option CompileFault :=
  (rootFault? root).or <| ((linkElements root).findSome? linkFault?).or <|
    (entryFault? root).or <| (bodyElements root "template").findSome? (templateFault? read)

theorem failure?_booleanAttribute (e : Element) (key : String) :
    failure? (booleanAttribute e key) = booleanFault? e key := by
  have hnone := boolean?_eq_none_iff (e.attr key)
  unfold booleanAttribute booleanFault?
  cases hread : boolean? (e.attr key) with
  | none => simp [failure?, Garbled, hnone.mp hread]
  | some value =>
      have hgood : ¬ Garbled e key := fun hbad => by simp [hnone.mpr hbad] at hread
      simp [failure?, hgood]

theorem failure?_compileLink (e : Element) (index : Nat) :
    failure? (compileLink e index) = linkFault? e := by
  calc failure? (compileLink e index)
      = (failure? (booleanAttribute e "reset")).or (booleanFault? e "embed") := by
        refine failure?_bind _ fun reset _ => ?_
        rw [failure?_bind none fun _ _ => rfl, failure?_booleanAttribute, Option.or_none]
    _ = linkFault? e := by rw [failure?_booleanAttribute, linkFault?]

theorem failure?_compileFlow (e : Element) (index : Nat) :
    failure? (compileFlow e index) = (e.elementsNamed "a").findSome? linkFault? := by
  unfold compileFlow
  rw [failure?_bind none fun _ _ => rfl, failure?_mapM_zipIdx failure?_compileLink, Option.or_none]

theorem failure?_compileTemplate (read : Pattern.Reader) (e : Element) :
    failure? (compileTemplate e read) = templateFault? read e := by
  unfold compileTemplate templateFault?
  cases hread : read (e.attr "match") <;> simp [hread, failure?]

theorem findSome?_flatMap {α β γ : Type} (f : β → Option γ) (g : α → List β) (items : List α) :
    (items.flatMap g).findSome? f = items.findSome? fun item => (g item).findSome? f := by
  induction items with
  | nil => rfl
  | cons item items ih =>
      rw [List.flatMap_cons, List.findSome?_append, ih, List.findSome?_cons]
      cases (g item).findSome? f <;> rfl

theorem failure?_compileFlows (root : Element) :
    failure? ((bodyElements root "nav").zipIdx.mapM fun (e, index) => compileFlow e index) =
      (linkElements root).findSome? linkFault? := by
  rw [failure?_mapM_zipIdx failure?_compileFlow, linkElements, findSome?_flatMap]

/-- A flow is the entry only if it is called that: an identifier made of a position is never
`main`. -/
theorem orPosition_eq_entry_iff (raw : String) (index : Nat) :
    orPosition raw "nav" index = entryFlowId ↔ raw = entryFlowId := by
  unfold orPosition orDefault
  split
  · next hraw =>
    subst hraw
    constructor
    · intro h
      have hlist := congrArg String.toList h
      simp [entryFlowId] at hlist
    · intro h
      simp [entryFlowId] at h
  · rfl

theorem any_entry_of_compileFlows {flows : List Flow}
    (h : (bodyElements root "nav").zipIdx.mapM (fun (e, index) => compileFlow e index) =
      .ok flows) :
    flows.any (·.id = entryFlowId) = (bodyElements root "nav").any (·.attr "id" = entryFlowId) := by
  calc flows.any (·.id = entryFlowId)
      = (bodyElements root "nav").zipIdx.any ((·.attr "id" = entryFlowId) ∘ Prod.fst) :=
        any_eq_of_mapM (fun (e, index) flow hflow => by
          simp [(compileFlow_eq_ok hflow).1, orPosition_eq_entry_iff]) h
    _ = (bodyElements root "nav").any (·.attr "id" = entryFlowId) := by
        rw [← List.any_map, List.zipIdx_map_fst]

theorem failure?_ofElement (root : Element) (fallbackId : String) (read : Pattern.Reader) :
    failure? (ofElement root fallbackId read) = fault? read root := by
  unfold ofElement fault? rootFault?
  by_cases hname : root.name = rootName
  · simp only [hname, ne_eq, not_true_eq_false, ↓reduceIte, Option.none_or]
    rw [← failure?_compileFlows]
    refine failure?_bind _ fun flows hflows => ?_
    rw [any_entry_of_compileFlows hflows, entryFault?]
    cases (bodyElements root "nav").any (·.attr "id" = entryFlowId) with
    | false => rfl
    | true =>
        refine (failure?_bind none fun _ _ => rfl).trans ?_
        rw [failure?_mapM, Option.or_none]
        exact congrArg (List.findSome? · _) (funext (failure?_compileTemplate read))
  · simp only [hname, ne_eq, not_false_eq_true, ↓reduceIte]
    rfl

/-!
The grounds, each told from what it lets a compilation fail with.
-/

theorem rootFault?_eq_none : rootFault? root = none ↔ root.name = "html" := by
  unfold rootFault? rootName
  split <;> simp_all

theorem rootFault?_eq_some {fault : CompileFault} :
    rootFault? root = some fault ↔ root.name ≠ "html" ∧ .root root.name root.span = fault := by
  unfold rootFault? rootName
  split <;> simp_all

theorem booleanFault?_eq_none {e : Element} {key : String} :
    booleanFault? e key = none ↔ ¬ Garbled e key := by
  simp [booleanFault?]

theorem linkFault?_eq_none (e : Element) : linkFault? e = none ↔ ¬ GarbledLink e := by
  simp [linkFault?, GarbledLink, booleanFault?_eq_none]

theorem linkFault?_of_garbled {e : Element} (h : GarbledLink e) :
    linkFault? e =
      some (.boolean (if Garbled e "reset" then "reset" else "embed") e.name e.span) := by
  by_cases hreset : Garbled e "reset"
  · simp [linkFault?, booleanFault?, hreset]
  · have hembed : Garbled e "embed" := h.resolve_left hreset
    simp [linkFault?, booleanFault?, hreset, hembed]

theorem name_of_mem_linkElements {e : Element} (h : e ∈ linkElements root) : e.name = "a" := by
  obtain ⟨nav, _, he⟩ := List.mem_flatMap.mp h
  simpa [Element.elementsNamed] using (List.mem_filter.mp he).2

theorem linkFaults_eq_none :
    (linkElements root).findSome? linkFault? = none ↔ ∀ e ∈ linkElements root, ¬ GarbledLink e := by
  simp [linkFault?_eq_none]

theorem linkFaults_eq_some {fault : CompileFault} :
    (linkElements root).findSome? linkFault? = some fault ↔
      ∃ e, IsFirst GarbledLink (linkElements root) e ∧
        .boolean (if Garbled e "reset" then "reset" else "embed") "a" e.span = fault := by
  rw [findSome?_eq_some_iff_isFirst linkFault?_eq_none]
  refine exists_congr fun e => and_congr_right fun hfirst => ?_
  rw [linkFault?_of_garbled hfirst.holds, name_of_mem_linkElements hfirst.mem, Option.some.injEq]

theorem any_entry_iff :
    (bodyElements root "nav").any (·.attr "id" = entryFlowId) = true ↔ HasEntry root := by
  simp only [List.any_eq_true, decide_eq_true_eq]
  rfl

theorem entryFault?_eq_none : entryFault? root = none ↔ HasEntry root := by
  simp [entryFault?, any_entry_iff, -List.any_eq_true]

theorem entryFault?_eq_some {fault : CompileFault} :
    entryFault? root = some fault ↔ ¬ HasEntry root ∧ .entryFlowMissing = fault := by
  simp [entryFault?, any_entry_iff, -List.any_eq_true]

theorem templateFault?_eq_none (e : Element) :
    templateFault? read e = none ↔ ¬ Unmatchable read e := by
  simp [templateFault?, Unmatchable, ← failure?_eq_some, Option.eq_none_iff_forall_ne_some]

theorem templateFaults_eq_some {fault : CompileFault} :
    (bodyElements root "template").findSome? (templateFault? read) = some fault ↔
      ∃ e, IsFirst (Unmatchable read) (bodyElements root "template") e ∧
        ∃ refusal, read (e.attr "match") = .error refusal ∧
          .pattern (e.attr "match") refusal e.span = fault := by
  rw [findSome?_eq_some_iff_isFirst templateFault?_eq_none]
  simp only [templateFault?, Option.map_eq_some_iff, failure?_eq_some]

/-!
The reports.
-/

theorem report_root (name : String) (span : Span) :
    (CompileFault.root name span).report =
      ⟨"XML_ROOT_INVALID", s!"Expected <html> as root element, found <{name}>.", some span⟩ := by
  simp [CompileFault.report, rootName, toString]

theorem report_boolean (key : String) (span : Span) :
    (CompileFault.boolean key "a" span).report =
      ⟨"XML_ATTR_BOOL_INVALID", s!"Attribute \"{key}\" on <a> must be a boolean.",
        some span⟩ := by
  simp [CompileFault.report, String.append_assoc, toString]

theorem report_entryFlowMissing :
    CompileFault.entryFlowMissing.report =
      ⟨"ENTRY_FLOW_MISSING", "Cannot find the entry flow (<nav id=\"main\"> ... </nav>).",
        none⟩ := by
  simp [CompileFault.report, entryFlowId, toString]

theorem unfit_iff {report : Report} :
    Unfit read root report ↔ ∃ fault, fault? read root = some fault ∧ fault.report = report := by
  simp only [fault?, Option.or_eq_some_iff, rootFault?_eq_none, rootFault?_eq_some,
    linkFaults_eq_none, linkFaults_eq_some, entryFault?_eq_none, entryFault?_eq_some,
    templateFaults_eq_some]
  constructor
  · intro h
    cases h with
    | root name => exact ⟨_, .inl ⟨name, rfl⟩, report_root _ _⟩
    | boolean name first named =>
        subst named
        exact ⟨_, .inr ⟨name, .inl ⟨_, first, rfl⟩⟩, report_boolean _ _⟩
    | entryFlowMissing name links missing =>
        exact ⟨_, .inr ⟨name, .inr ⟨links, .inl ⟨missing, rfl⟩⟩⟩, report_entryFlowMissing⟩
    | pattern name links entry first text refused =>
        subst text
        exact ⟨_, .inr ⟨name, .inr ⟨links, .inr ⟨entry, _, first, _, refused, rfl⟩⟩⟩, rfl⟩
  · rintro ⟨fault, ⟨name, rfl⟩ | ⟨name, ⟨e, first, rfl⟩ | ⟨links, ⟨missing, rfl⟩ |
      ⟨entry, e, first, refusal, refused, rfl⟩⟩⟩, rfl⟩
    · exact report_root _ _ ▸ .root name
    · exact report_boolean _ _ ▸ .boolean name first rfl
    · exact report_entryFlowMissing ▸ .entryFlowMissing name links missing
    · exact .pattern name links entry first rfl refused

/-!
What is no ground.
-/

/-- The element with the elements for its content. -/
def withElements (e : Element) (content : List Element) : Element :=
  { e with children := content.map .element }

def bare (e : Element) : Element := withElements e []

def bareFlow (e : Element) : Element := withElements e ((e.elementsNamed "a").map bare)

/-- Flows and templates are set apart: only the order within each matters. -/
def bareBody (e : Element) : Element :=
  withElements e ((e.elementsNamed "nav").map bareFlow ++ (e.elementsNamed "template").map bare)

/-- The document with nothing in it but its flows with their links, and its templates without their
replies. -/
def bareDocument (root : Element) : Element :=
  withElements root ((root.elementsNamed "body").map bareBody)

theorem elementsNamed_withElements (e : Element) (content : List Element) (name : String) :
    (withElements e content).elementsNamed name = content.filter (·.name = name) := by
  simp [withElements, Element.elementsNamed, Element.elements, List.filterMap_map]

theorem filter_name_map_elementsNamed (change : Element → Element)
    (h : ∀ e, (change e).name = e.name) (e : Element) (name other : String) :
    ((e.elementsNamed name).map change).filter (·.name = other) =
      if name = other then (e.elementsNamed name).map change else [] := by
  have hname : ∀ child ∈ (e.elementsNamed name).map change, child.name = name := by
    intro child hchild
    obtain ⟨original, horiginal, rfl⟩ := List.mem_map.mp hchild
    rw [h]
    simpa [Element.elementsNamed] using (List.mem_filter.mp horiginal).2
  split
  · next hsame =>
    exact List.filter_eq_self.mpr fun child hchild => by simp [hname child hchild, hsame]
  · next hother =>
    exact List.filter_eq_nil_iff.mpr fun child hchild => by simp [hname child hchild, hother]

theorem links_bareFlow (e : Element) :
    (bareFlow e).elementsNamed "a" = (e.elementsNamed "a").map bare := by
  rw [bareFlow, elementsNamed_withElements, filter_name_map_elementsNamed bare fun _ => rfl,
    if_pos rfl]

theorem flows_bareBody (e : Element) :
    (bareBody e).elementsNamed "nav" = (e.elementsNamed "nav").map bareFlow := by
  rw [bareBody, elementsNamed_withElements, List.filter_append,
    filter_name_map_elementsNamed bareFlow fun _ => rfl,
    filter_name_map_elementsNamed bare fun _ => rfl, if_pos rfl, if_neg (by decide),
    List.append_nil]

theorem templates_bareBody (e : Element) :
    (bareBody e).elementsNamed "template" = (e.elementsNamed "template").map bare := by
  rw [bareBody, elementsNamed_withElements, List.filter_append,
    filter_name_map_elementsNamed bareFlow fun _ => rfl,
    filter_name_map_elementsNamed bare fun _ => rfl, if_neg (by decide), if_pos rfl,
    List.nil_append]

theorem bodyElements_bareDocument {change : Element → Element} {name : String}
    (h : ∀ e, (bareBody e).elementsNamed name = (e.elementsNamed name).map change)
    (root : Element) :
    bodyElements (bareDocument root) name = (bodyElements root name).map change := by
  rw [bodyElements, bareDocument, elementsNamed_withElements,
    filter_name_map_elementsNamed bareBody fun _ => rfl, if_pos rfl, List.flatMap_map,
    bodyElements, List.map_flatMap]
  exact congrArg (List.flatMap · _) (funext h)

theorem linkElements_bareDocument (root : Element) :
    linkElements (bareDocument root) = (linkElements root).map bare := by
  rw [linkElements, bodyElements_bareDocument flows_bareBody, List.flatMap_map, linkElements,
    List.map_flatMap]
  exact congrArg (List.flatMap · _) (funext links_bareFlow)

theorem linkFault?_bare (e : Element) : linkFault? (bare e) = linkFault? e := rfl

theorem templateFault?_bare (e : Element) :
    templateFault? read (bare e) = templateFault? read e := by
  have hattr : (bare e).attr "match" = e.attr "match" := rfl
  have hspan : (bare e).span = e.span := rfl
  rw [templateFault?, templateFault?, hattr, hspan]

theorem entryFault?_bareDocument (root : Element) :
    entryFault? (bareDocument root) = entryFault? root := by
  rw [entryFault?, bodyElements_bareDocument flows_bareBody, List.any_map, entryFault?]
  rfl

theorem fault?_bareDocument (root : Element) :
    fault? read (bareDocument root) = fault? read root := by
  have hroot : rootFault? (bareDocument root) = rootFault? root := rfl
  rw [fault?, hroot, linkElements_bareDocument, entryFault?_bareDocument,
    bodyElements_bareDocument templates_bareBody, List.findSome?_map, List.findSome?_map,
    funext (f := linkFault? ∘ bare) linkFault?_bare,
    funext (f := templateFault? read ∘ bare) templateFault?_bare, fault?]

/-!
Texts.
-/

theorem compile_of_parse {source : String} (h : parse source = .ok root) (fallbackId : String)
    (read : Pattern.Reader) :
    compile source fallbackId parse read = ofElement root fallbackId read := by
  rw [compile, h]

theorem refused_iff {source : String} (fallbackId : String) {report : Report} :
    Refused parse read source report ↔
      ∃ fault, failure? (compile source fallbackId parse read) = some fault ∧
        fault.report = report := by
  cases hparse : parse source with
  | error fault =>
      rw [compile, hparse]
      constructor
      · intro h
        cases h with
        | markup rejected =>
            cases hparse.symm.trans rejected
            exact ⟨_, rfl, rfl⟩
        | document parsed => cases hparse.symm.trans parsed
      · rintro ⟨_, hfault, rfl⟩
        cases hfault
        exact .markup hparse
  | ok root =>
      rw [compile_of_parse hparse, failure?_ofElement, ← unfit_iff]
      constructor
      · intro h
        cases h with
        | markup rejected => cases hparse.symm.trans rejected
        | document parsed unfit =>
            cases hparse.symm.trans parsed
            exact unfit
      · exact .document hparse

/-- Whichever texts are taken for documents and for patterns, a compilation fails on the grounds
there are, with the report of the first, and succeeds where there is none.  Without all that can go
from a document, and with any identifier, it fails no less and no more. -/
theorem compile_refuses (parse : Markup.Reader) (read : Pattern.Reader)
    (source fallbackId : String) :
    (∀ report, (compile source fallbackId parse read).mapError CompileFault.report =
      .error report ↔ Refused parse read source report) ∧
    ((∃ script, compile source fallbackId parse read = .ok script) ↔
      ∀ report, ¬ Refused parse read source report) ∧
    ∀ root, parse source = .ok root → ∀ otherId,
      failure? (compile source fallbackId parse read) =
        failure? (ofElement (bareDocument root) otherId read) := by
  refine ⟨fun report => ?_, ?_, fun root hparse otherId => ?_⟩
  · rw [mapError_eq_error_iff, ← refused_iff fallbackId]
  · simp only [refused_iff fallbackId, ← failure?_eq_none, Option.eq_none_iff_forall_ne_some]
    constructor
    · rintro h _ ⟨fault, hfault, _⟩
      exact h fault hfault
    · exact fun h fault hfault => h fault.report ⟨fault, hfault, rfl⟩
  · rw [compile_of_parse hparse, failure?_ofElement, failure?_ofElement, fault?_bareDocument]

/-- The first garbled link counts, before the missing entry and the broken pattern. -/
example :
    (compile ("<html><body><template match=\"(\"/><nav><a reset=\" T \" embed=\"2\"/></nav>" ++
        "</body></html>") "bot").mapError CompileFault.report =
      .error ⟨"XML_ATTR_BOOL_INVALID", "Attribute \"embed\" on <a> must be a boolean.",
        some ⟨⟨1, 39⟩, ⟨1, 65⟩⟩⟩ := by
  decide +kernel

/-- A reader without room for a pattern. -/
example :
    (compile "<html><body><nav id=\"main\"/><template match=\"\\w{1000}\"/></body></html>" "bot"
        Element.parse fun _ => .error (.oversized 10485760)).mapError CompileFault.report =
      .error ⟨"TEMPLATE_PATTERN_INVALID",
        "Invalid template pattern \"\\w{1000}\": " ++
          "Compiled regex exceeds size limit of 10485760 bytes.",
        some ⟨⟨1, 29⟩, ⟨1, 57⟩⟩⟩ := by
  decide +kernel

end Script

end Colloquy
