import Colloquy.Proofs.Dialogue.Passage

/-!
Events that change nothing.  Whatever the store holds and whichever of its operations fail, only
those that start over, open a form or answer the pending input can leave a trace in it.
-/

namespace Colloquy

open Session (Keeper Store)

namespace Conversation

variable {κ : Type} {c : Conversation} {store : Store κ}

/-- The events that may change something.  An input is pending only if the pointer can be read. -/
inductive Admits (c : Conversation) (store : Store κ) : Event → Prop where
  | restart {payload : String} {token : Routing.Token} (named : payload ≠ getStarted)
      (parsed : Routing.Token.parse payload = .ok token) (resets : token.requestsReset = true) :
      Admits c store (.postback payload)
  | enter {payload : String} {token : Routing.Token} {form : Form} (named : payload ≠ getStarted)
      (parsed : Routing.Token.parse payload = .ok token) (scheme : token.scheme = .form)
      (declared : c.script.form? token.host = some form) (asks : form.inputs ≠ []) :
      Admits c store (.postback payload)
  | text {content : String} {attachments : List String} {pending : Input}
      (awaits : c.pending? store = some pending) (kind : pending.kind = .text) :
      Admits c store (.message content attachments)
  | file {content : String} {attachments : List String} {pending : Input}
      (awaits : c.pending? store = some pending) (kind : pending.kind = .file)
      (attached : attachments ≠ []) : Admits c store (.message content attachments)
  | option {payload : String} {token : Routing.Token} {pending : Input} {raw : String}
      {position : Nat} (named : payload ≠ getStarted)
      (parsed : Routing.Token.parse payload = .ok token) (scheme : token.scheme = .answer)
      (awaits : c.pending? store = some pending) (kind : pending.kind = .options)
      (shown : ∀ path, token.param? Routing.Token.inputParam = some path → path = pending.path)
      (pressed : token.param? Routing.Token.optionParam = some raw)
      (numbered : Text.naturalBelow? Text.positionBound raw = some position)
      (offered : position < pending.options.length) : Admits c store (.postback payload)

theorem admits_of_written {content : String} {attachments : List String} {answer : Input × String}
    (h : c.written? content attachments store = some answer) :
    c.Admits store (.message content attachments) := by
  obtain ⟨pending, hpending, hanswer⟩ := Option.bind_eq_some_iff.mp h
  cases hkind : pending.kind with
  | text => exact .text hpending hkind
  | file =>
      refine .file hpending hkind ?_
      rintro rfl
      simp [hkind] at hanswer
  | options => simp [hkind] at hanswer
  | other name => simp [hkind] at hanswer

theorem admits_of_chosen {payload : String} {token : Routing.Token} {answer : Input × String}
    (hpayload : payload ≠ getStarted) (hparse : Routing.Token.parse payload = .ok token)
    (hscheme : token.scheme = .answer) (h : c.chosen? token store = some answer) :
    c.Admits store (.postback payload) := by
  obtain ⟨pending, hpending, hanswer⟩ := Option.bind_eq_some_iff.mp h
  split at hanswer
  · next hopen =>
    obtain ⟨choice, hselected, _⟩ := Option.map_eq_some_iff.mp hanswer
    simp only [selected?, bind, Option.bind_eq_some_iff] at hselected
    obtain ⟨raw, hraw, position, hposition, hchoice⟩ := hselected
    refine .option hpayload hparse hscheme hpending hopen.1 ?_ hraw hposition
      (List.getElem?_eq_some_iff.mp hchoice).1
    intro path hpath
    by_contra hne
    exact hopen.2 (by simp [hpath, hne])
  · cases hanswer

variable [Keeper κ] {world : World κ}

/-- A token whose form has nothing to ask, and whose answer is not accepted, leads nowhere. -/
theorem follow_of_idle {token : Routing.Token}
    (hform : token.scheme = .form → ∀ form, c.script.form? token.host = some form →
      form.inputs = [])
    (hanswer : token.scheme = .answer → c.chosen? token world.store = none) :
    (c.follow token world).2 = world := by
  unfold follow
  cases hscheme : token.scheme with
  | nav =>
      dsimp only
      split <;> rfl
  | form =>
      dsimp only
      split
      · next form hfound => simp [presentForm, Form.firstInput?, hform hscheme form hfound]
      · rfl
  | answer => exact rests_handleOption (hanswer hscheme)
  | other name => rfl

theorem idles_handlePostback {payload : String} (h : ¬ c.Admits world.store (.postback payload)) :
    c.Idles world (c.handlePostback payload world).2 := by
  unfold handlePostback
  by_cases hpayload : payload = getStarted
  · rw [if_pos hpayload]
    exact .refl world
  rw [if_neg hpayload]
  cases hparse : Routing.Token.parse payload with
  | error fault => exact .refl world
  | ok token =>
      have hquiet : ¬ token.requestsReset = true := fun hreset =>
        h (.restart hpayload hparse hreset)
      have hform : token.scheme = .form → ∀ form, c.script.form? token.host = some form →
          form.inputs = [] := by
        intro hscheme form hfound
        by_contra hinputs
        exact h (.enter hpayload hparse hscheme hfound hinputs)
      have hanswer : token.scheme = .answer → c.chosen? token world.store = none := by
        intro hscheme
        cases hchosen : c.chosen? token world.store with
        | none => rfl
        | some answer => exact absurd (admits_of_chosen hpayload hparse hscheme hchosen) h
      simp only [if_neg hquiet, follow_of_idle hform hanswer]
      exact .refl world

theorem idles_handle {event : Event} (h : ¬ c.Admits world.store event) :
    c.Idles world (c.handle event world).2 := by
  cases event with
  | optIn => exact .refl world
  | message content attachments =>
      apply idles_handleMessage
      cases hwritten : c.written? content attachments world.store with
      | none => rfl
      | some answer => exact absurd (admits_of_written hwritten) h
  | postback payload => exact idles_handlePostback h

/-- An event that may change nothing leaves the whole store as it is, and nothing is submitted. -/
theorem handle_unchanged (event : Event) (world : World κ) (h : ¬ c.Admits world.store event) :
    (c.handle event world).2.store = world.store ∧
      (c.turn event world).1.submissions = [] := by
  obtain ⟨effects, hsteps, hdelivered, hstore⟩ := (idles_handle h).rests
  exact ⟨hstore, hsteps.delivered_drop.trans hdelivered⟩

/-- A form with a single seat to choose. -/
def seatTalk : Conversation where
  engine.script :=
    { Script.ticketScript with
      forms := [⟨"f", "please follow the next steps", "Thank you", "http://a/", "post",
        [⟨"f", "f/seat", "seat", "please write the required data", .options, [⟨"1a", "1A"⟩], "",
          none⟩]⟩] }
  engine.composer := fun _ => .error .request
  session := "s"

/-- The session is to choose its seat, in a store that deletes no answers. -/
def seatWorld : World Session.Memory where
  store :=
    { keeper := {}
      snapshot := ⟨.ofList [(seatTalk.keys.pointer, "f/seat")], ∅⟩
      broken := [.deleteHash] }
  picker := ⟨0⟩

def secondSeat : Routing.Token := .ofOption "f" "f/seat" 1

theorem parse_secondSeat : Routing.Token.parse secondSeat.payload = .ok secondSeat := by
  decide +kernel

theorem handle_unchanged_second_seat :
    (seatTalk.handle (.postback secondSeat.payload) seatWorld).2.store = seatWorld.store ∧
      (seatTalk.turn (.postback secondSeat.payload) seatWorld).1.submissions = [] := by
  refine handle_unchanged (.postback secondSeat.payload) seatWorld fun h => ?_
  cases h with
  | restart named parsed resets =>
      obtain rfl := Except.ok.inj (parse_secondSeat.symm.trans parsed)
      exact absurd resets (by decide)
  | enter named parsed scheme declared asks =>
      obtain rfl := Except.ok.inj (parse_secondSeat.symm.trans parsed)
      cases scheme
  | option named parsed scheme awaits kind shown pressed numbered offered =>
      obtain rfl := Except.ok.inj (parse_secondSeat.symm.trans parsed)
      have hposition : Text.naturalBelow? Text.positionBound "1" = some 1 := by decide +kernel
      have hpressed : secondSeat.param? Routing.Token.optionParam = some "1" := by decide +kernel
      obtain rfl := Option.some.inj (hpressed.symm.trans pressed)
      obtain rfl := Option.some.inj (hposition.symm.trans numbered)
      obtain rfl := Option.some.inj awaits
      exact absurd offered (by decide)

end Conversation

end Colloquy
