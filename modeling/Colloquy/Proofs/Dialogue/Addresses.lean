import Colloquy.Proofs.Dialogue.Buttons

/-!
Flows and forms are addressed by their identifiers.  An identifier is looked up as the host of a URL
spells it, which is as it was declared only within ASCII: anything beyond is escaped there.
-/

namespace Colloquy

open Routing (Scheme Token)
open Session (Keeper)

namespace Url

theorem percent_mem_percentEncode (keep : Char → Bool) {cs : List Char} {c : Char} (hc : c ∈ cs)
    (hcode : 0x80 ≤ c.toNat) : '%' ∈ percentEncode keep cs := by
  obtain ⟨b, bytes, hbytes⟩ := List.exists_cons_of_ne_nil (String.utf8EncodeChar_ne_nil (c := c))
  have hbeyond : (decide (c.toNat < 0x80) && keep c) = false := by simp [Nat.not_lt.mpr hcode]
  refine List.mem_flatMap.mpr ⟨c, hc, ?_⟩
  rw [hbeyond, hbytes]
  exact List.mem_cons_self

/-- A letter, a digit, one of two marks, or anything beyond ASCII. -/
def isNameChar (c : Char) : Bool := c.isAlphanum || c ∈ ['-', '_'] || 0x80 ≤ c.toNat

theorem isPlain_of_isNameChar {c : Char} (h : isNameChar c = true) (hcode : c.toNat < 0x80) :
    Host.isPlain c = true := by
  have hall : ∀ c : Char, c.toNat < 128 → isNameChar c = true → Host.isPlain c = true :=
    forall_ascii (by decide)
  exact hall c hcode h

theorem Host.isForbiddenInName_eq_false {c : Char} (hcode : 0x80 ≤ c.toNat) :
    Host.isForbiddenInName c = false := by
  have hascii : ∀ d ∈ ['\x00', '\t', '\n', '\r', ' ', '#', '/', ':', '<', '>', '?', '@', '[', '\\',
      ']', '^', '|'], d.toNat < 0x80 := by simp
  rw [isForbiddenInName, decide_eq_false_iff_not]
  exact fun hmem => Nat.not_lt.mpr hcode (hascii c hmem)

theorem isAllowed_of_isNameChar {c : Char} (h : isNameChar c = true) :
    Host.isAllowed c = true := by
  by_cases hcode : c.toNat < 0x80
  · exact Host.isAllowed_of_isPlain (isPlain_of_isNameChar h hcode)
  · have hcode := Nat.not_lt.mp hcode
    simp [Host.isAllowed, Host.isForbiddenInName_eq_false hcode, Nat.lt_of_lt_of_le _ hcode]

/-- An identifier as a host spells it. -/
def spelled (id : String) : String := String.ofList (percentEncode keepsOpaque id.toList)

/-- An identifier that has nothing in it beyond ASCII. -/
def IsAscii (id : String) : Prop := ∀ c ∈ id.toList, c.toNat < 0x80

instance (id : String) : Decidable (IsAscii id) :=
  decidable_of_iff (id.toList.all (·.toNat < 0x80) = true) (by simp [IsAscii])

section

variable {id : String}

theorem spelled_of_isAscii (hid : ∀ c ∈ id.toList, isNameChar c = true) (hascii : IsAscii id) :
    spelled id = id := by
  have hkept : percentEncode keepsOpaque id.toList = id.toList :=
    percentEncode_eq_self fun c hc => by
      have hplain := isPlain_of_isNameChar (hid c hc) (hascii c hc)
      exact ⟨hascii c hc, (Bool.and_eq_true_iff.mp hplain).1⟩
  rw [spelled, hkept, String.ofList_toList]

theorem percent_mem_spelled (hascii : ¬ IsAscii id) : '%' ∈ (spelled id).toList := by
  simp only [IsAscii, not_forall, Nat.not_lt] at hascii
  obtain ⟨c, hc, hcode⟩ := hascii
  rw [spelled, String.toList_ofList]
  exact percent_mem_percentEncode keepsOpaque hc hcode

end

end Url

namespace Routing.Token

theorem parse_address {scheme : Scheme} (hscheme : scheme.Followed) {id : String} (hne : id ≠ "")
    (hid : ∀ c ∈ id.toList, Url.isNameChar c = true) :
    parse (scheme.name ++ "://" ++ id) = .ok ⟨scheme, Url.spelled id, ∅⟩ := by
  have hallowed : ∀ c ∈ id.toList, Url.Host.isAllowed c = true := fun c hc =>
    Url.isAllowed_of_isNameChar (hid c hc)
  have hhost : Url.Host.parseOpaque id.toList = .ok (.name (Url.spelled id)) :=
    Url.Host.parseOpaque_of_allowed (by simpa using hne) fun c hc => by
      simpa [Url.Host.isAllowed] using (Bool.and_eq_true_iff.mp (hallowed c hc)).2
  have hurl := Url.parse_of_allowed hscheme.readable.kept hscheme.readable.kind hallowed hhost
    fun cs (hcs : cs ∈ none) => by cases hcs
  rw [Url.writtenQuery, String.ofList_nil, String.append_empty] at hurl
  rw [parse, hurl]
  simp only [ofUrl, hscheme.readable.named]
  rfl

end Routing.Token

theorem findLast?_eq_none {α : Type} {items : List α} {key : α → String} {name : String}
    (h : name ∉ items.map key) : findLast? (key · = name) items = none := by
  cases hfound : findLast? (key · = name) items with
  | none => rfl
  | some item =>
      obtain ⟨hmem, hkey⟩ := mem_of_findLast? hfound
      exact absurd (List.mem_map.mpr ⟨item, hmem, of_decide_eq_true hkey⟩) h

namespace Conversation

variable {κ : Type} [Keeper κ] {c : Conversation}

theorem handle_address {scheme : Scheme} (hscheme : scheme.Followed) {id : String} (hne : id ≠ "")
    (hid : ∀ ch ∈ id.toList, Url.isNameChar ch = true) (world : World κ) :
    c.handle (.postback (scheme.name ++ "://" ++ id)) world =
      c.follow ⟨scheme, Url.spelled id, ∅⟩ world :=
  handle_of_parse (Token.parse_address hscheme hne hid) rfl

theorem follow_nav {id : String} {flow : Flow} (h : c.script.flow? id = some flow)
    (world : World κ) : c.follow ⟨.nav, id, ∅⟩ world = (flow.present, world) := by
  simp [follow, h]

theorem follow_form {id : String} {form : Form} (h : c.script.form? id = some form)
    (world : World κ) : c.follow ⟨.form, id, ∅⟩ world = c.presentForm form world := by
  simp [follow, h]

theorem title_presentForm (form : Form) {world : World κ} (h : world.store.Healthy) :
    ∃ rest, (c.presentForm form world).1 = .text form.title :: rest := by
  unfold presentForm
  cases form.firstInput? with
  | none => exact ⟨_, rfl⟩
  | some first =>
      cases c.pending? world.store with
      | some pending => exact ⟨_, rfl⟩
      | none =>
          have hkept : (c.advance first.path world).1 = true := World.write_of_healthy h _
          simp [hkept]

/-- What comes of the address of an identifier.  Within ASCII it leads to what is named; beyond, it
leads nowhere, as long as nothing is declared under an identifier with an escape in it. -/
structure Leads (c : Conversation) (address id : String) (declared : List String)
    (named : World κ → List Message × World κ) : Prop where
  within : Url.IsAscii id → ∀ world : World κ, c.handle (.postback address) world = named world
  beyond : ¬ Url.IsAscii id → (∀ other ∈ declared, '%' ∉ other.toList) → ∀ world : World κ,
    c.handle (.postback address) world = (c.errorMessages, world)

theorem leads_of_follow {scheme : Scheme} (hscheme : scheme.Followed) {id : String} (hne : id ≠ "")
    (hid : ∀ ch ∈ id.toList, Url.isNameChar ch = true) {declared : List String}
    {named : World κ → List Message × World κ}
    (hfound : ∀ world, c.follow ⟨scheme, id, ∅⟩ world = named world)
    (hmissing : ∀ other, other ∉ declared → ∀ world : World κ,
      c.follow ⟨scheme, other, ∅⟩ world = (c.errorMessages, world)) :
    c.Leads (scheme.name ++ "://" ++ id) id declared named where
  within := by
    intro hascii world
    rw [handle_address hscheme hne hid, Url.spelled_of_isAscii hid hascii, hfound]
  beyond := by
    intro hascii hplain world
    rw [handle_address hscheme hne hid]
    exact hmissing _ (fun hmem => hplain _ hmem (Url.percent_mem_spelled hascii)) world

theorem follow_nav_of_not_mem {id : String} (h : id ∉ c.script.flows.map Flow.id)
    (world : World κ) : c.follow ⟨.nav, id, ∅⟩ world = (c.errorMessages, world) := by
  simp [follow, Script.flow?, findLast?_eq_none h]

theorem follow_form_of_not_mem {id : String} (h : id ∉ c.script.forms.map Form.id)
    (world : World κ) : c.follow ⟨.form, id, ∅⟩ world = (c.errorMessages, world) := by
  simp [follow, Script.form?, findLast?_eq_none h]

/-- Flows and forms that are declared can be addressed if their identifiers are within ASCII; beyond
it they are as good as unknown. -/
theorem address_leads {source fallbackId : String}
    (hcompiled : Script.compile source fallbackId = .ok c.script) :
    (∀ flow ∈ c.script.flows, (∀ ch ∈ flow.id.toList, Url.isNameChar ch = true) →
      ∃ found, c.script.flow? flow.id = some found ∧ found.id = flow.id ∧
        c.Leads ("nav://" ++ flow.id) flow.id (c.script.flows.map Flow.id)
          fun world : World κ => (found.present, world)) ∧
    ∀ form ∈ c.script.forms, (∀ ch ∈ form.id.toList, Url.isNameChar ch = true) →
      ∃ found, c.script.form? form.id = some found ∧ found.id = form.id ∧
        c.Leads ("form://" ++ form.id) form.id (c.script.forms.map Form.id)
          (fun world : World κ => c.presentForm found world) ∧
        ∀ world : World κ, world.store.Healthy →
          ∃ rest, (c.presentForm found world).1 = .text found.title :: rest := by
  have hformed := Script.compile_wellFormed hcompiled
  constructor
  · intro flow hflow hid
    obtain ⟨found, _, hfound, hsame⟩ := hformed.flows.exists_found hflow
    exact ⟨found, hfound, hsame, leads_of_follow (.inl rfl) (hformed.flowIds flow hflow) hid
      (follow_nav hfound) fun other => follow_nav_of_not_mem⟩
  · intro form hform hid
    obtain ⟨found, _, hfound, hsame⟩ := hformed.forms.exists_found hform
    exact ⟨found, hfound, hsame, leads_of_follow (.inr (.inl rfl)) (hformed.formIds form hform) hid
      (follow_form hfound) (fun other => follow_form_of_not_mem),
      fun world => title_presentForm found⟩

/-- Two flows and two forms, one of each beyond ASCII. -/
def townSource : String :=
  "<html><body><nav id=\"main\"/><nav id=\"Top-1\" title=\"Top\"/><nav id=\"men\u00fc\"/>" ++
    "<form id=\"F_1\" title=\"First\"/><form id=\"gr\u00f6\u00dfe\" title=\"Size\"/></body></html>"

def topFlow : Flow := ⟨"Top-1", "Top", []⟩

def menuFlow : Flow := ⟨"men\u00fc", "Please choose an action", []⟩

def firstForm : Form := ⟨"F_1", "First", "Thank you", "", "post", []⟩

def sizeForm : Form := ⟨"gr\u00f6\u00dfe", "Size", "Thank you", "", "post", []⟩

def townTalk : Conversation where
  engine.script := { Script.ticketScript with
    flows := [⟨"main", "Please choose an action", []⟩, topFlow, menuFlow]
    forms := [firstForm, sizeForm] }
  engine.composer := fun _ => .error .request
  session := "s"

theorem compile_townSource : Script.compile townSource "bot" = .ok townTalk.script := by
  decide +kernel

def townWorld : World Session.Memory := ⟨.inMemory, ⟨0⟩, []⟩

theorem address_leads_town :
    Script.compile townSource "bot" = .ok townTalk.script ∧
    townTalk.handle (.postback "nav://Top-1") townWorld = (topFlow.present, townWorld) ∧
    townTalk.handle (.postback "nav://men\u00fc") townWorld =
      (townTalk.errorMessages, townWorld) ∧
    townTalk.handle (.postback "form://F_1") townWorld =
      townTalk.presentForm firstForm townWorld ∧
    (∃ rest, (townTalk.presentForm firstForm townWorld).1 = .text "First" :: rest) ∧
    townTalk.handle (.postback "form://gr\u00f6\u00dfe") townWorld =
      (townTalk.errorMessages, townWorld) := by
  obtain ⟨hflows, hforms⟩ := @address_leads Session.Memory _ townTalk _ _ compile_townSource
  have htop : topFlow ∈ townTalk.script.flows := by decide
  have hmenu : menuFlow ∈ townTalk.script.flows := by decide
  have hfirst : firstForm ∈ townTalk.script.forms := by decide
  have hsize : sizeForm ∈ townTalk.script.forms := by decide
  obtain ⟨top, htopFound, _, htop⟩ := hflows topFlow htop (List.all_eq_true.mp rfl)
  obtain ⟨menu, _, _, hmenu⟩ := hflows menuFlow hmenu (List.all_eq_true.mp rfl)
  obtain ⟨first, hfirstFound, _, hfirst, htitle⟩ :=
    hforms firstForm hfirst (List.all_eq_true.mp rfl)
  obtain ⟨size, _, _, hsize, _⟩ := hforms sizeForm hsize (List.all_eq_true.mp rfl)
  obtain rfl : topFlow = top := Option.some.inj htopFound
  obtain rfl : firstForm = first := Option.some.inj hfirstFound
  have hflowIds : ∀ other ∈ townTalk.script.flows.map Flow.id, '%' ∉ other.toList := by
    simp [townTalk, Conversation.script, topFlow, menuFlow]
  have hformIds : ∀ other ∈ townTalk.script.forms.map Form.id, '%' ∉ other.toList := by
    simp [townTalk, Conversation.script, firstForm, sizeForm]
  exact ⟨compile_townSource, htop.within (by decide) _, hmenu.beyond (by decide) hflowIds _,
    hfirst.within (by decide) _, htitle _ Session.Store.healthy_inMemory,
    hsize.beyond (by decide) hformIds _⟩

/-- A flow and a form that are declared, with letters alone in their identifiers, are not found. -/
theorem not_found_town :
    Script.compile townSource "bot" = .ok townTalk.script ∧
    townTalk.script.flow? "men\u00fc" = some menuFlow ∧
    townTalk.script.form? "gr\u00f6\u00dfe" = some sizeForm ∧
    menuFlow.present = [.buttons "Please choose an action" []] ∧
    (townTalk.handle (.postback "nav://men\u00fc") townWorld).1 = [.text "Unhandled input :("] ∧
    (townTalk.presentForm sizeForm townWorld).1 = [.text "Size"] ∧
    (townTalk.handle (.postback "form://gr\u00f6\u00dfe") townWorld).1 =
      [.text "Unhandled input :("] := by
  refine ⟨compile_townSource, ?_⟩
  decide +kernel

end Conversation

end Colloquy
