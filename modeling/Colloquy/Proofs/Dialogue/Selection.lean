import Colloquy.Dialogue.Reply
import Colloquy.Proofs.Dialogue.Draws
import Colloquy.Proofs.Script.Refusal

/-!
How a template is selected for free text.  The first one that counts has the say, and the picker is
asked for one of its replies; all others might as well not be there.  The composer is asked only if
there is none.
-/

namespace Colloquy

open Markup (Element)
open Session (Store)

theorem find?_eq_some_iff_isFirst {α : Type} {p : α → Bool} {items : List α} {item : α} :
    items.find? p = some item ↔ IsFirst (p · = true) items item := by
  rw [List.find?_eq_some_iff_append]
  constructor
  · rintro ⟨hholds, front, back, hitems, hfront⟩
    exact ⟨hholds, front, back, hitems, fun earlier he => by simpa using hfront earlier he⟩
  · rintro ⟨hholds, front, back, hitems, hfront⟩
    exact ⟨hholds, front, back, hitems, fun earlier he => by simpa using hfront earlier he⟩

/-- Some items are left out: those without the property, and those behind the first one that has
it.  That one has to stay, but any of the others may stay as well. -/
inductive Pruned {α : Type} (p : α → Prop) : List α → List α → Prop where
  | nil : Pruned p [] []
  | keep {item : α} {items kept : List α} (rest : Pruned p items kept) :
      Pruned p (item :: items) (item :: kept)
  | leave {item : α} {items kept : List α} (idle : ¬ p item) (rest : Pruned p items kept) :
      Pruned p (item :: items) kept
  | cut {item : α} {items kept : List α} (holds : p item) (rest : kept.Sublist items) :
      Pruned p (item :: items) (item :: kept)

theorem Pruned.find?_eq {α : Type} {p : α → Bool} {items kept : List α}
    (h : Pruned (p · = true) items kept) : kept.find? p = items.find? p := by
  induction h with
  | nil => rfl
  | keep _ ih => rw [List.find?_cons, List.find?_cons, ih]
  | leave hidle _ ih => rw [ih, List.find?_cons_of_neg hidle]
  | cut hholds _ => rw [List.find?_cons_of_pos hholds, List.find?_cons_of_pos hholds]

theorem pruned_take_filter {α : Type} (p : α → Prop) [DecidablePred p] (items : List α) :
    Pruned p items ((items.filter p).take 1) := by
  induction items with
  | nil => exact .nil
  | cons item items ih =>
      by_cases hp : p item
      · rw [List.filter_cons_of_pos (by simpa using hp)]
        exact .cut hp (List.nil_sublist items)
      · rw [List.filter_cons_of_neg (by simpa using hp)]
        exact .leave hp ih

namespace Template

/-- A template counts for a text if it has a reply and its pattern matches. -/
def CountsFor (content : String) (template : Template) : Prop :=
  template.replies ≠ [] ∧ template.pattern.isMatch content = true

instance (content : String) : DecidablePred (CountsFor content) :=
  fun _ => inferInstanceAs (Decidable (_ ∧ _))

theorem answers_eq_true_iff {content : String} {template : Template} :
    template.answers content = true ↔ template.CountsFor content := by
  simp [answers, CountsFor]

theorem answers_eq_countsFor (content : String) :
    (answers · content = true) = CountsFor content :=
  funext fun _ => propext answers_eq_true_iff

end Template

namespace Reply

/-- What a reply says, told from its element: the label, if it has one, and then the attachment, if
both parts of one are there. -/
def written (e : Element) : List Message :=
  (if e.attr "label" = "" then [] else [.text (e.attr "label")]) ++
    if e.attr "type" = "" ∨ e.attr "src" = "" then []
    else [.attachment (e.attr "type") (e.attr "src")]

theorem messages_compileReply (e : Element) : (Script.compileReply e).messages = written e := by
  unfold messages written
  congr 1
  · by_cases hlabel : e.attr "label" = "" <;> simp [Script.compileReply, nonEmpty?, hlabel]
  · by_cases hkind : e.attr "type" = "" <;> by_cases hsource : e.attr "src" = "" <;>
      simp [Script.compileReply, nonEmpty?, hkind, hsource]

end Reply

namespace Script

theorem replies_of_compileTemplate {e : Element} {template : Template}
    (h : compileTemplate e = .ok template) :
    template.replies = (e.elementsNamed "reply").map compileReply := by
  unfold compileTemplate at h
  dsimp only at h
  split at h
  · rw [← Except.ok.inj h]
  · cases h

theorem exists_element_of_template {source fallbackId : String} {script : Script}
    (h : compile source fallbackId = .ok script) :
    ∃ root, Element.parse source = .ok root ∧
      ∀ template ∈ script.templates, ∃ e ∈ bodyElements root "template",
        compileTemplate e = .ok template := by
  unfold compile at h
  split at h
  · next root hroot =>
    obtain ⟨_, flows, templates, _, _, htemplates, rfl⟩ := ofElement_eq_ok h
    exact ⟨root, hroot, fun template hmem => exists_of_mem_mapM htemplates hmem⟩
  · cases h

end Script

namespace Engine

variable {κ : Type} {engine : Engine} {content : String} {world : World κ} {template : Template}

def withTemplates (engine : Engine) (templates : List Template) : Engine :=
  { engine with script := { engine.script with templates } }

/-- The picker chooses among the replies of a template, so one of them is given. -/
theorem replyFrom_eq (h : template.replies ≠ []) (world : World κ) :
    ∃ reply, template.replies[(world.picker.pick template.replies.length).1]? = some reply ∧
      engine.replyFrom template world = (reply.messages,
        { world with picker := (world.picker.pick template.replies.length).2 }) := by
  have hlt : (world.picker.pick template.replies.length).1 < template.replies.length :=
    (world.picker.picked_pick _).lt (List.length_pos_iff.mpr h)
  have hreply := List.getElem?_eq_getElem hlt
  refine ⟨_, hreply, ?_⟩
  simp only [replyFrom, hreply]

theorem reply_of_isFirst
    (h : IsFirst (Template.CountsFor content) engine.script.templates template) :
    engine.reply content world = engine.replyFrom template world := by
  rw [← Template.answers_eq_countsFor] at h
  rw [reply, find?_eq_some_iff_isFirst.mpr h]

theorem find?_answers_eq_none
    (h : ∀ template ∈ engine.script.templates, ¬ template.CountsFor content) :
    engine.script.templates.find? (·.answers content) = none := by
  rw [List.find?_eq_none]
  intro template hmem hanswers
  exact h template hmem (Template.answers_eq_true_iff.mp hanswers)

theorem reply_eq_of_pruned {kept : List Template}
    (h : Pruned (Template.CountsFor content) engine.script.templates kept) :
    (engine.withTemplates kept).reply content world = engine.reply content world := by
  rw [← Template.answers_eq_countsFor] at h
  have hfind : (engine.withTemplates kept).script.templates.find? (·.answers content) =
      engine.script.templates.find? (·.answers content) := h.find?_eq
  simp only [reply, hfind]
  rfl

/-- What free text comes to with a bot whose script is that of a document: one reply of the first
template that counts, else what the composer says, if one is set, else the error text.  All else
that belongs to the world stays as it is, so nothing more is picked or asked. -/
structure Resolution (engine : Engine) (root : Element) (content : String) (world : World κ)
    (outcome : List Message × World κ) : Prop where
  template : ∀ template, IsFirst (Template.CountsFor content) engine.script.templates template →
    ∃ e ∈ Script.bodyElements root "template", Script.compileTemplate e = .ok template ∧
      ∃ reply, (e.elementsNamed "reply")[(world.picker.pick template.replies.length).1]? =
          some reply ∧
        outcome = (Reply.written reply,
          { world with picker := (world.picker.pick template.replies.length).2 })
  composer : (∀ template ∈ engine.script.templates, ¬ template.CountsFor content) →
    ∀ address, engine.script.configs.get? "composer" = some address → address ≠ "" →
      ∃ said, outcome = ([.text said], world.note (.ask (Composer.url address content))) ∧
        (∀ body, engine.composer (Composer.url address content) = .ok body →
          said = if body = "" then engine.script.errorText else body) ∧
        ∀ fault, engine.composer (Composer.url address content) = .error fault →
          said = engine.script.errorText
  neither : (∀ template ∈ engine.script.templates, ¬ template.CountsFor content) →
    (∀ address, engine.script.configs.get? "composer" = some address → address = "") →
      outcome = ([.text engine.script.errorText], world)

theorem exists_reply_of_isFirst {e : Element}
    (h : IsFirst (Template.CountsFor content) engine.script.templates template)
    (he : Script.compileTemplate e = .ok template) (world : World κ) :
    ∃ reply, (e.elementsNamed "reply")[(world.picker.pick template.replies.length).1]? =
        some reply ∧
      engine.reply content world = (Reply.written reply,
        { world with picker := (world.picker.pick template.replies.length).2 }) := by
  obtain ⟨found, hfound, hreply⟩ := engine.replyFrom_eq h.holds.1 world
  rw [← reply_of_isFirst h] at hreply
  rw [Script.replies_of_compileTemplate he, List.getElem?_map, Option.map_eq_some_iff] at hfound
  obtain ⟨reply, hat, rfl⟩ := hfound
  rw [← Script.replies_of_compileTemplate he] at hat
  exact ⟨reply, hat, by rw [hreply, Reply.messages_compileReply]⟩

theorem reply_eq_compose {address : String}
    (hnone : ∀ template ∈ engine.script.templates, ¬ template.CountsFor content)
    (hset : engine.script.configs.get? "composer" = some address) (hne : address ≠ "")
    (world : World κ) : engine.reply content world = engine.compose address content world := by
  have hconfig : engine.script.config? Composer.configKey = some address := by
    rw [Script.config?, Composer.configKey, hset]
    simp [hne]
  rw [reply, find?_answers_eq_none hnone]
  dsimp only
  rw [hconfig]

theorem compose_eq (address content : String) (world : World κ) :
    ∃ said, engine.compose address content world =
        ([.text said], world.note (.ask (Composer.url address content))) ∧
      (∀ body, engine.composer (Composer.url address content) = .ok body →
        said = if body = "" then engine.script.errorText else body) ∧
      ∀ fault, engine.composer (Composer.url address content) = .error fault →
        said = engine.script.errorText := by
  simp only [compose, Script.errorMessages]
  cases engine.composer (Composer.url address content) with
  | error fault =>
      refine ⟨engine.script.errorText, rfl, fun body hbody => ?_, fun _ _ => rfl⟩
      cases hbody
  | ok body =>
      refine ⟨if body = "" then engine.script.errorText else body, ?_, fun other hother => ?_,
        fun fault hfault => ?_⟩
      · by_cases hempty : body = ""
        · simp only [if_pos hempty]
        · simp only [if_neg hempty]
      · rw [Except.ok.inj hother]
      · cases hfault

theorem reply_eq_errorText
    (hnone : ∀ template ∈ engine.script.templates, ¬ template.CountsFor content)
    (hunset : ∀ address, engine.script.configs.get? "composer" = some address → address = "")
    (world : World κ) :
    engine.reply content world = ([.text engine.script.errorText], world) := by
  have hconfig : engine.script.config? Composer.configKey = none := by
    rw [Script.config?, Composer.configKey]
    simpa [Option.filter_eq_none_iff] using hunset
  rw [reply, find?_answers_eq_none hnone]
  dsimp only
  rw [hconfig]
  rfl

/-- Free text is resolved by the first template that counts, and templates that do not count, or
come after that one, may be left out, any of them or all. -/
theorem reply_resolves {source fallbackId : String}
    (h : Script.compile source fallbackId = .ok engine.script) (content : String)
    (world : World κ) :
    (∃ root, Element.parse source = .ok root ∧
      engine.Resolution root content world (engine.reply content world)) ∧
    (∀ kept, Pruned (Template.CountsFor content) engine.script.templates kept →
      (engine.withTemplates kept).reply content world = engine.reply content world) ∧
    (engine.withTemplates
        ((engine.script.templates.filter (Template.CountsFor content)).take 1)).reply
          content world =
      engine.reply content world := by
  obtain ⟨root, hroot, helement⟩ := Script.exists_element_of_template h
  refine ⟨⟨root, hroot, ?_, ?_, ?_⟩, fun kept => reply_eq_of_pruned,
    reply_eq_of_pruned (pruned_take_filter _ _)⟩
  · intro template hfirst
    obtain ⟨e, he, hcompiled⟩ := helement template hfirst.mem
    exact ⟨e, he, hcompiled, exists_reply_of_isFirst hfirst hcompiled world⟩
  · intro hnone address hset hne
    rw [reply_eq_compose hnone hset hne]
    exact compose_eq address content world
  · intro hnone hunset
    exact reply_eq_errorText hnone hunset world

/-- A bot with two templates for the same texts, one of them without replies, and a composer that
has nothing to say. -/
def letterSource : String :=
  "<html><head><meta name=\"composer\" content=\"c?%s\"/></head><body><nav id=\"main\"/>" ++
    "<template match=\"a\"/><template match=\"a\"><reply type=\"i\"/>" ++
    "<reply label=\"A\" type=\"i\" src=\"u\"/></template></body></html>"

def letterPattern : Pattern := ⟨"a", .sequence (.one ⟨#[(97, 97)]⟩) .empty⟩

def letterBot : Engine where
  script :=
    { id := "bot"
      version := ""
      configs := .ofList [("composer", "c?%s"), ("error", "Unhandled input :(")]
      flows := [⟨"main", "Please choose an action", []⟩]
      forms := []
      templates :=
        [⟨letterPattern, []⟩, ⟨letterPattern, [⟨none, none⟩, ⟨some "A", some ⟨"i", "u"⟩⟩]⟩] }
  composer _ := .ok ""

theorem compile_letterSource : Script.compile letterSource "bot" = .ok letterBot.script := by
  decide +kernel

def letterStart : World Session.Memory := ⟨Store.inMemory, ⟨1⟩, []⟩

/-- The second template counts for one text, and its last reply is picked; none counts for another,
about which the composer is asked in vain. -/
theorem reply_resolves_letter :
    Script.compile letterSource "bot" = .ok letterBot.script ∧
      (∃ root, Element.parse letterSource = .ok root ∧
        letterBot.Resolution root "a cat" letterStart (letterBot.reply "a cat" letterStart)) ∧
      (letterBot.reply "a cat" letterStart).1 = [.text "A", .attachment "i" "u"] ∧
      Pruned (Template.CountsFor "a cat") letterBot.script.templates
        (letterBot.script.templates.drop 1) ∧
      (letterBot.withTemplates (letterBot.script.templates.drop 1)).reply "a cat" letterStart =
        letterBot.reply "a cat" letterStart ∧
      (∀ template ∈ letterBot.script.templates, ¬ template.CountsFor "hm") ∧
      letterBot.reply "hm" letterStart =
        ([.text "Unhandled input :("], letterStart.note (.ask "c?hm")) := by
  obtain ⟨hresolution, hpruned, _⟩ := reply_resolves compile_letterSource "a cat" letterStart
  obtain ⟨⟨_, _, hother⟩, _⟩ := reply_resolves compile_letterSource "hm" letterStart
  have hkept : Pruned (Template.CountsFor "a cat") letterBot.script.templates
      (letterBot.script.templates.drop 1) :=
    .leave (by decide) (.keep .nil)
  have hsaid : (letterBot.reply "a cat" letterStart).1 = [.text "A", .attachment "i" "u"] := by
    decide +kernel
  have hnone : ∀ template ∈ letterBot.script.templates, ¬ template.CountsFor "hm" := by
    decide +kernel
  have hset : letterBot.script.configs.get? "composer" = some "c?%s" := by decide +kernel
  have hurl : Composer.url "c?%s" "hm" = "c?hm" := by decide +kernel
  have herror : letterBot.script.errorText = "Unhandled input :(" := by decide +kernel
  obtain ⟨said, hasked, hbody, _⟩ := hother.composer hnone _ hset (by decide)
  rw [hbody "" rfl, if_pos rfl, herror, hurl] at hasked
  exact ⟨compile_letterSource, hresolution, hsaid, hkept, hpruned _ hkept, hnone, hasked⟩

end Engine

end Colloquy
