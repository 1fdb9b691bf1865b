import Colloquy.Proofs.Dialogue.Turn
import Colloquy.Proofs.Routing.Canonical
import Colloquy.Proofs.Script.WellFormed

/-!
Buttons that are pressed: the payload that a menu or a question hands out is read as what the
button stands for, at any later time.
-/

namespace Colloquy

open Routing (Target Token)
open Session (Keeper Store)

/-!
Buttons of links.
-/

theorem Routing.Target.exists_url_of_ofHref {href : String} {token : Token}
    (h : ofHref href = .route token) : ∃ url, Url.parse href = .ok url ∧ token = .ofUrl url := by
  unfold ofHref at h
  split at h
  · next url hurl =>
    split at h
    · cases h
    · exact ⟨url, hurl, (route.inj h).symm⟩
  · cases h

namespace Routing.Token

/-- What the button of a link leads to: the link's own token, with where the button was and whether
the link starts over. -/
def ofLink (token : Token) (flowId : String) (link : Link) : Token :=
  ((token.withParam flowParam flowId).withParam linkParam link.id).withParam resetParam
    (if link.reset then "yes" else "no")

theorem Readable.ofLink {token : Token} (h : token.Readable) (flowId : String) (link : Link) :
    (token.ofLink flowId link).Readable :=
  ((h.withParam _ _).withParam _ _).withParam _ _

variable (token : Token) (flowId : String) (link : Link)

theorem param?_ofLink (key : String) :
    (token.ofLink flowId link).param? key =
      if key = resetParam then some (if link.reset then "yes" else "no")
      else if key = linkParam then some link.id
      else if key = flowParam then some flowId
      else token.param? key := by
  simp only [ofLink, param?_withParam, eq_comm (a := key)]

theorem requestsReset_ofLink : (token.ofLink flowId link).requestsReset = link.reset := by
  rw [requestsReset, param?_ofLink, if_pos rfl]
  cases link.reset <;> decide

end Routing.Token

namespace Script

variable {script : Script}

/-- Where a link of a compiled script leads is told by its address. -/
theorem target_of_compile {source fallbackId : String}
    (h : compile source fallbackId = .ok script) {flow : Flow} (hflow : flow ∈ script.flows)
    {link : Link} (hlink : link ∈ flow.links) : link.target = .ofHref link.href := by
  unfold compile at h
  split at h
  · obtain ⟨_, flows, templates, hflows, _, _, rfl⟩ := ofElement_eq_ok h
    obtain ⟨_, _, hcompiled⟩ := exists_of_mem_mapM hflows hflow
    obtain ⟨_, _, hcompiled⟩ := exists_of_mem_mapM (compileFlow_eq_ok hcompiled).2 hlink
    exact (compileLink_eq_ok hcompiled).2
  · cases h

/-- The button of a link is read as the link's own token, whose parameters tell the flow, the link
and whether it starts over, whatever the address of the link says about these. -/
theorem link_button_read {source fallbackId : String}
    (hcompiled : compile source fallbackId = .ok script) {flow : Flow}
    (hflow : flow ∈ script.flows) {position : Nat} {link : Link}
    (hlink : flow.links[position]? = some link) {token : Token}
    (htarget : link.target = .route token) (hordinary : token.Ordinary) :
    ∃ payload pressed, flow.buttons[position]? = some ⟨link.text, .postback payload⟩ ∧
      Token.parse payload = .ok pressed ∧
      pressed.scheme = token.scheme ∧ pressed.host = token.host ∧
      pressed.param? Token.flowParam = some flow.id ∧
      pressed.param? Token.linkParam = some link.id ∧
      pressed.param? Token.resetParam = some (if link.reset then "yes" else "no") ∧
      (∀ key, key ∉ [Token.flowParam, Token.linkParam, Token.resetParam] →
        pressed.param? key = token.param? key) ∧
      pressed.requestsReset = link.reset := by
  have hhref := target_of_compile hcompiled hflow (List.mem_of_getElem? hlink)
  obtain ⟨url, hurl, rfl⟩ := Target.exists_url_of_ofHref (hhref.symm.trans htarget)
  have hreadable := (Token.readable_of_ofUrl hurl hordinary).ofLink flow.id link
  have hbutton : flow.buttons[position]? =
      some ⟨link.text, .postback ((Token.ofUrl url).ofLink flow.id link).payload⟩ := by
    rw [Flow.buttons, List.getElem?_map, hlink, Option.map_some, Link.action, htarget]
    rfl
  refine ⟨_, _, hbutton, hreadable.parse_payload, rfl, rfl, ?_, ?_, ?_, fun key hkey => ?_,
    Token.requestsReset_ofLink _ _ _⟩
  · rw [Token.param?_ofLink, if_neg (by decide), if_neg (by decide), if_pos rfl]
  · rw [Token.param?_ofLink, if_neg (by decide), if_pos rfl]
  · rw [Token.param?_ofLink, if_pos rfl]
  · simp only [List.mem_cons, List.not_mem_nil, or_false, not_or] at hkey
    rw [Token.param?_ofLink, if_neg hkey.2.2, if_neg hkey.2.1, if_neg hkey.1]

/-- A menu with a link whose address has parameters of its own. -/
def tourSource : String :=
  "<html><body><nav id=\"main\"><a id=\"\u00e9&amp;a\" reset=\"1\" " ++
    "href=\"Tour://us@R%20m:7/a?reset=no&amp;src_nav_id=x&amp;z=1#t\">Go</a></nav></body></html>"

def tourToken : Token :=
  ⟨.other "tour", "R%20m", .ofList [("reset", "no"), ("src_nav_id", "x"), ("z", "1")]⟩

def tourLink : Link where
  id := "\u00e9&a"
  text := "Go"
  href := "Tour://us@R%20m:7/a?reset=no&src_nav_id=x&z=1#t"
  target := .route tourToken
  reset := true
  embed := false
  ratio := "tall"

def tourFlow : Flow := ⟨"main", "Please choose an action", [tourLink]⟩

def tourScript : Script := { ticketScript with flows := [tourFlow], forms := [] }

theorem compile_tourSource : compile tourSource "bot" = .ok tourScript := by
  decide +kernel

theorem link_button_read_tour :
    tourToken.Ordinary ∧ ∃ payload pressed,
      tourFlow.buttons[0]? = some ⟨"Go", .postback payload⟩ ∧
      Token.parse payload = .ok pressed ∧
      pressed.scheme = .other "tour" ∧ pressed.host = "R%20m" ∧
      pressed.param? Token.flowParam = some "main" ∧
      pressed.param? Token.linkParam = some "\u00e9&a" ∧
      pressed.param? Token.resetParam = some "yes" ∧
      (∀ key, key ∉ [Token.flowParam, Token.linkParam, Token.resetParam] →
        pressed.param? key = tourToken.param? key) ∧
      pressed.requestsReset = true := by
  have hordinary : tourToken.Ordinary := ⟨by decide, Token.not_isAddress_of_not_mem (by decide)⟩
  have hflow : tourFlow ∈ tourScript.flows := List.mem_cons_self
  have hlink : tourFlow.links[0]? = some tourLink := rfl
  exact ⟨hordinary, link_button_read compile_tourSource hflow hlink rfl hordinary⟩

end Script

/-!
Buttons of options.
-/

namespace Routing.Token

variable {form path : String} {position : Nat}

theorem readable_ofOption (hne : form ≠ "") (hform : ∀ c ∈ form.toList, Url.isUnreserved c = true) :
    (ofOption form path position).Readable :=
  readable_of_unreserved (.inr (.inr rfl)) hne hform _

theorem param?_ofOption (form path : String) (position : Nat) (key : String) :
    (ofOption form path position).param? key =
      if key = optionParam then some (toString position)
      else if key = inputParam then some path
      else none := by
  simp only [ofOption, param?_withParam, eq_comm (a := key)]
  rfl

theorem requestsReset_ofOption : (ofOption form path position).requestsReset = false := by
  rw [requestsReset, param?_ofOption, if_neg (by decide), if_neg (by decide)]
  rfl

end Routing.Token

/-- A question with buttons has one for each option. -/
theorem Script.exists_choice_of_asked {script : Script} {input : Input} {title : String}
    {buttons : List Button} (hasked : .buttons title buttons ∈ script.ask input) {position : Nat}
    {button : Button} (hbutton : buttons[position]? = some button) :
    ∃ choice, input.options[position]? = some choice ∧
      button.action = .postback (Token.ofOption input.scope input.path position).payload := by
  unfold ask at hasked
  split at hasked
  · cases List.mem_singleton.mp hasked
  · cases List.mem_singleton.mp hasked
  · obtain ⟨rfl, rfl⟩ := Message.buttons.inj (List.mem_singleton.mp hasked)
    rw [Input.optionButtons, List.getElem?_mapIdx] at hbutton
    obtain ⟨choice, hchoice, rfl⟩ := Option.map_eq_some_iff.mp hbutton
    exact ⟨choice, hchoice, rfl⟩
  · cases List.mem_singleton.mp hasked

namespace Conversation

variable {κ : Type} [Keeper κ] {c : Conversation} {world : World κ}

theorem handle_of_parse {payload : String} {token : Token}
    (hparse : Token.parse payload = .ok token) (hquiet : token.requestsReset = false) :
    c.handle (.postback payload) world = c.follow token world := by
  have hnamed : payload ≠ getStarted := by
    rintro rfl
    have hrefused : (Token.parse getStarted).toOption = none := by decide +kernel
    rw [hparse] at hrefused
    cases hrefused
  simp [handle, handlePostback, hnamed, hparse, hquiet]

section

variable {pending : Input} (hpending : c.pending? world.store = some pending)
  (hkind : pending.kind = .options)

include hpending hkind

theorem follow_ofOption (form : String) {position : Nat} (hposition : position < Text.positionBound)
    {choice : Choice} (hchoice : pending.options[position]? = some choice) :
    c.follow (Token.ofOption form pending.path position) world =
      c.answer pending choice.key world := by
  have hselected : selected? pending (Token.ofOption form pending.path position) = some choice := by
    rw [selected?, Token.param?_ofOption, if_pos rfl]
    simp only [bind, Option.bind_some, Text.naturalBelow?_toString hposition, hchoice]
  have hinput : (Token.ofOption form pending.path position).param? Token.inputParam =
      some pending.path := by
    rw [Token.param?_ofOption, if_neg (by decide), if_pos rfl]
  change c.handleOption _ world = _
  simp [handleOption, hpending, hkind, hinput, hselected]

theorem follow_ofOption_of_ne (form : String) {path : String} (hpath : path ≠ pending.path)
    (position : Nat) :
    c.follow (Token.ofOption form path position) world = (c.script.ask pending, world) := by
  have hinput : (Token.ofOption form path position).param? Token.inputParam = some path := by
    rw [Token.param?_ofOption, if_neg (by decide), if_pos rfl]
  change c.handleOption _ world = _
  simp [handleOption, hpending, hkind, hinput, hpath]

end

/-- An option button answers the input that it was shown for, with its own option, as long as that
input is pending.  While any other input with options is pending, it only has that one asked
again.  A list cannot be asked for positions beyond the bound. -/
theorem option_button_answers {source fallbackId : String}
    (hcompiled : Script.compile source fallbackId = .ok c.script)
    (hpaths : c.script.DistinctPaths)
    (hforms : ∀ form ∈ c.script.forms, ∀ ch ∈ form.id.toList, Url.isUnreserved ch = true)
    {pending : Input} (hpending : c.pending? world.store = some pending)
    (hkind : pending.kind = .options) {form : Form} (hform : form ∈ c.script.forms) {input : Input}
    (hinput : input ∈ form.inputs) {title : String} {buttons : List Button}
    (hasked : .buttons title buttons ∈ c.script.ask input) {position : Nat} {button : Button}
    (hbutton : buttons[position]? = some button) (hposition : position < Text.positionBound) :
    ∃ payload, button.action = .postback payload ∧
      (input = pending → ∃ choice, pending.options[position]? = some choice ∧
        c.handle (.postback payload) world = c.answer pending choice.key world) ∧
      (input ≠ pending → c.handle (.postback payload) world = (c.script.ask pending, world) ∧
        (c.turn (.postback payload) world).1.submissions = []) := by
  obtain ⟨choice, hchoice, haction⟩ := Script.exists_choice_of_asked hasked hbutton
  have hscope := (Script.compile_inputsNamed hcompiled).scope form hform input hinput
  have hne := (Script.compile_wellFormed hcompiled).formIds form hform
  rw [hscope] at haction
  have hhandle : c.handle (.postback (Token.ofOption form.id input.path position).payload) world =
      c.follow (Token.ofOption form.id input.path position) world :=
    handle_of_parse (Token.readable_ofOption hne (hforms form hform)).parse_payload
      Token.requestsReset_ofOption
  refine ⟨_, haction, ?_, fun hother => ?_⟩
  · rintro rfl
    have hanswer := follow_ofOption hpending hkind form.id hposition hchoice
    exact ⟨choice, hchoice, hhandle.trans hanswer⟩
  · obtain ⟨owner, howner, hmem⟩ := exists_form_of_pending? hpending
    have hpath : input.path ≠ pending.path := fun heq =>
      hother (hpaths.eq_of_path_eq hform hinput howner hmem heq)
    rw [follow_ofOption_of_ne hpending hkind form.id hpath position] at hhandle
    refine ⟨hhandle, ?_⟩
    simp only [turn, hhandle]
    exact List.drop_length

/-- A form with two inputs to choose for. -/
def quizSource : String :=
  "<html><body><nav id=\"main\"/><form id=\"f\"><input id=\"a\" type=\"options\">" ++
    "<option value=\"r\"/><option value=\"g\">G</option></input>" ++
    "<input id=\"b\" type=\"options\"><option/></input></form></body></html>"

def quizInput (id : String) (options : List Choice) : Input :=
  ⟨"f", inputPath "f" id, id, "please write the required data", .options, options, "", none⟩

def colorInput : Input := quizInput "a" [⟨"r", ""⟩, ⟨"g", "G"⟩]

def sizeInput : Input := quizInput "b" [⟨"", ""⟩]

def quizForm : Form :=
  ⟨"f", "please follow the next steps", "Thank you", "", "post", [colorInput, sizeInput]⟩

def quizTalk : Conversation where
  engine.script := { Script.ticketScript with forms := [quizForm] }
  engine.composer := fun _ => .error .request
  session := "s"

theorem compile_quizSource : Script.compile quizSource "bot" = .ok quizTalk.script := by
  decide +kernel

/-- The session is to choose a color. -/
def quizWorld : World Session.Memory where
  store := ⟨{}, ⟨.ofList [(quizTalk.keys.pointer, "f/a")], ∅⟩, []⟩
  picker := ⟨0⟩

theorem option_button_answers_quiz :
    (∃ payload, colorInput.optionButtons[1]? = some ⟨"G", .postback payload⟩ ∧
      quizTalk.handle (.postback payload) quizWorld = quizTalk.answer colorInput "g" quizWorld) ∧
    ∃ payload, sizeInput.optionButtons[0]? = some ⟨"", .postback payload⟩ ∧
      quizTalk.handle (.postback payload) quizWorld =
        (quizTalk.script.ask colorInput, quizWorld) := by
  have hforms : ∀ form ∈ quizTalk.script.forms, ∀ ch ∈ form.id.toList,
      Url.isUnreserved ch = true := by
    intro form hform
    obtain rfl := List.mem_singleton.mp hform
    exact List.all_eq_true.mp rfl
  have hpending : quizTalk.pending? quizWorld.store = some colorInput := by decide +kernel
  have hform : quizForm ∈ quizTalk.script.forms := List.mem_cons_self
  have hcolor : colorInput ∈ quizForm.inputs := List.mem_cons_self
  have hsize : sizeInput ∈ quizForm.inputs := List.mem_cons_of_mem _ List.mem_cons_self
  have hasked : .buttons colorInput.title colorInput.optionButtons ∈
      quizTalk.script.ask colorInput := List.mem_cons_self
  have hstale : .buttons sizeInput.title sizeInput.optionButtons ∈
      quizTalk.script.ask sizeInput := List.mem_cons_self
  have hgreen := option_button_answers compile_quizSource (by decide) hforms hpending rfl hform
    hcolor hasked (rfl : _[1]? = some _) (by decide)
  have hsmall := option_button_answers compile_quizSource (by decide) hforms hpending rfl hform
    hsize hstale (rfl : _[0]? = some _) (by decide)
  constructor
  · obtain ⟨payload, haction, hown, _⟩ := hgreen
    obtain ⟨choice, hchoice, hhandle⟩ := hown rfl
    obtain rfl := Action.postback.inj haction
    obtain rfl := Option.some.inj hchoice
    exact ⟨_, rfl, hhandle⟩
  · obtain ⟨payload, haction, _, hother⟩ := hsmall
    obtain rfl := Action.postback.inj haction
    exact ⟨_, rfl, (hother (by decide)).1⟩

end Conversation

end Colloquy
