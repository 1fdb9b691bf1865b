import Colloquy.Proofs.Dialogue.Submitted
import Mathlib.Order.Bounds.Basic

/-!
What follows an answer: the first question behind it that is shown with the answer counted in, or
else the delivery of all answers.
-/

namespace Colloquy

open Session (Keeper)

/-- The positions behind one of a form whose inputs are shown, given the answers. -/
def Script.shownBehind (script : Script) (form : Form) (answers : Dict String) (position : Nat) :
    Set Nat :=
  {later | position < later ∧
    ∃ input, form.inputs[later]? = some input ∧ script.shows answers input = true}

/-- A submission of a form's answers, each under the local identifier of its input. -/
structure Submission.Carries (submission : Submission) (session : String) (form : Form)
    (answers : Dict String) : Prop where
  session : submission.session = session
  formId : submission.formId = form.id
  action : submission.action = form.action
  fields : ∀ id, submission.fields.get? id = answers.get? (inputPath form.id id)
  complete : ∀ path ∈ answers.keys, ∃ input ∈ form.inputs, path = inputPath form.id input.id

theorem inputPath_injective {scope id other : String}
    (h : inputPath scope id = inputPath scope other) : id = other := by
  simpa [inputPath, String.append_assoc] using h

namespace Conversation

variable {κ : Type} {c : Conversation} {form : Form} {answers : Dict String} {position : Nat}

theorem carries_submission (hlegible : c.script.Legible)
    (hform : c.script.form? form.id = some form) (hbelow : form.AnswersBelow answers position) :
    (c.submission answers form).Carries c.session form answers := by
  have hanswered : c.answeredForm answers form = form := answeredForm_eq hlegible hform hbelow
  have hpath := hlegible.named.path form (Script.mem_of_form? hform).1
  have hkeys : ∀ path ∈ answers.keys, ∃ input ∈ form.inputs, path = inputPath form.id input.id := by
    intro path hmem
    obtain ⟨input, hinput, rfl, _⟩ := exists_input_of_answered hlegible hform hbelow hmem
    exact ⟨input, hinput, hpath input hinput⟩
  refine ⟨rfl, congrArg Form.id hanswered, congrArg Form.action hanswered, ?_, hkeys⟩
  intro id
  ext value
  refine (get?_fields_eq_some_iff hlegible hform hbelow).trans ⟨?_, fun hanswer => ?_⟩
  · rintro ⟨input, hinput, rfl, hanswer⟩
    rwa [hpath input hinput] at hanswer
  · obtain ⟨input, hinput, hsame⟩ := hkeys _ (Dict.mem_keys_of_get? hanswer)
    obtain rfl : id = input.id := inputPath_injective hsame
    exact ⟨input, hinput, rfl, by rwa [hpath input hinput]⟩

/-- The search behind a position comes to the least one at which an input is shown. -/
theorem search_succeeds (c : Conversation) (form : Form) (answers : Dict String) (position : Nat) :
    (∃ next upcoming, IsLeast (c.script.shownBehind form answers position) next ∧
        form.inputs[next]? = some upcoming ∧
        c.search form answers (position + 1) =
          (⟨c.script.ask upcoming, []⟩, .inside form next answers)) ∨
      c.script.shownBehind form answers position = ∅ ∧
        c.search form answers (position + 1) =
          (⟨[.text form.submit], [c.submission answers form]⟩, .outside) := by
  obtain ⟨final, hle, hpassed, ⟨upcoming, hupcoming, hshown, hend⟩ | ⟨hnone, hend⟩⟩ :=
    exists_search_end c form answers (position + 1)
  · refine .inl ⟨final, upcoming, ⟨⟨hle, upcoming, hupcoming, hshown⟩, ?_⟩, hupcoming, hend⟩
    rintro later ⟨hbehind, input, hinput, hvisible⟩
    by_contra hearlier
    exact hpassed later hbehind (by omega) input hinput hvisible
  · refine .inr ⟨Set.eq_empty_of_forall_notMem ?_, hend⟩
    rintro later ⟨hbehind, input, hinput, hvisible⟩
    have hlength := List.getElem?_eq_none_iff.mp hnone
    have hlt := (List.getElem?_eq_some_iff.mp hinput).1
    exact hpassed later hbehind (by omega) input hinput hvisible

variable [Keeper κ]

theorem Settles.turn_eq {event : Event} {world : World κ} {outcome : Turn × Standing}
    (h : c.Settles world (c.handle event world) outcome) :
    (c.turn event world).1 = outcome.1 := by
  obtain ⟨hmessages, ⟨effects, hsteps, hdelivered⟩, _⟩ := h
  calc (c.turn event world).1
    _ = ⟨(c.handle event world).1, delivered effects⟩ := by rw [← hsteps.delivered_drop]; rfl
    _ = outcome.1 := by rw [hmessages, hdelivered]

/-- After any events, an accepted answer leads to the least position behind it at which an input is
shown; if there is none, all answers are delivered and nothing is left of them. -/
theorem turn_of_accepted_succeeds {source fallbackId : String}
    (hcompiled : Script.compile source fallbackId = .ok c.script)
    (hpaths : c.script.DistinctPaths) (start : World κ) (hstore : start.store.Healthy)
    (hempty : start.store.snapshot = ∅) (events : List Event) (event : Event)
    {form : Form} (hform : form ∈ c.script.forms) {position : Nat} {input : Input}
    (hinput : form.inputs[position]? = some input) {value : String}
    (haccepted : c.accepted? event (c.run events start).store = some (input, value)) :
    let before := (c.run events start).store.snapshot
    let answers := (before.hash c.keys.answers).insert input.path value
    let done := c.turn event (c.run events start)
    let after := done.2.store.snapshot
    (∃ next upcoming, IsLeast (c.script.shownBehind form answers position) next ∧
        form.inputs[next]? = some upcoming ∧
        done.1 = ⟨c.script.ask upcoming, []⟩ ∧
        after.values.get? c.keys.pointer = some upcoming.path ∧
        after.hash c.keys.answers = answers) ∨
      c.script.shownBehind form answers position = ∅ ∧
        (∃ submission, done.1 = ⟨[.text form.submit], [submission]⟩ ∧
          submission.Carries c.session form answers) ∧
        after.values.get? c.keys.pointer = none ∧ after.hashes.get? c.keys.answers = none := by
  have hlegible : c.script.Legible := ⟨hpaths, Script.compile_inputsNamed hcompiled⟩
  obtain ⟨hhealthy, standing, hstands, _, hanswered⟩ :=
    exists_standing_run hlegible hstore hempty (P := fun _ standing => standing.Answered) trivial
      (fun _ _ _ _ _ _ _ _ hanswered hmove => hmove.answered hanswered) events
  obtain ⟨own, place, held, rfl, hplace⟩ := exists_inside_of_pending? hlegible hhealthy.intact
    hstands (pending?_of_accepted? haccepted)
  -- The form and the position at which the session stands are those of the input.
  obtain ⟨rfl, rfl⟩ := hpaths.form_and_position_eq (Script.mem_of_form? hstands.1).1 hplace hform
    hinput rfl
  intro before answers done after
  have hanswers : held.insert input.path value = answers := by rw [← hstands.2.2]
  have hbelow : own.AnswersBelow answers (place + 1) := hanswers ▸ hanswered.insert hplace value
  have hsettles : c.Settles (c.run events start) (c.handle event (c.run events start))
      (c.search own answers (place + 1)) := by
    rw [handle_of_accepted haccepted, ← hanswers]
    exact settles_answer hlegible hhealthy hstands hplace value
  have hturn : done.1 = (c.search own answers (place + 1)).1 := hsettles.turn_eq
  have hafter : c.Stands done.2.store (c.search own answers (place + 1)).2 := hsettles.2.2
  rcases search_succeeds c own answers place with
    ⟨next, upcoming, hleast, hupcoming, hsearch⟩ | ⟨hnone, hsearch⟩
  · rw [hsearch] at hturn hafter
    obtain ⟨_, ⟨pending, hpending, hpointer⟩, hkept⟩ := hafter
    obtain rfl : upcoming = pending := Option.some.inj (hupcoming.symm.trans hpending)
    exact .inl ⟨next, upcoming, hleast, hupcoming, hturn, hpointer, hkept⟩
  · rw [hsearch] at hturn hafter
    exact .inr ⟨hnone, ⟨_, hturn, carries_submission hlegible hstands.1 hbelow⟩, hafter⟩

theorem turn_of_accepted_succeeds_ticket :
    let world := ticketTalk.run [.postback "form://f"] ticketStart
    let answers := (world.store.snapshot.hash ticketTalk.keys.answers).insert "f/a" "2"
    let done := ticketTalk.turn (.message "2" []) world
    let after := done.2.store.snapshot
    (∃ next upcoming,
        IsLeast (ticketTalk.script.shownBehind Script.ticketForm answers 0) next ∧
        Script.ticketForm.inputs[next]? = some upcoming ∧
        done.1 = ⟨ticketTalk.script.ask upcoming, []⟩ ∧
        after.values.get? ticketTalk.keys.pointer = some upcoming.path ∧
        after.hash ticketTalk.keys.answers = answers) ∨
      ticketTalk.script.shownBehind Script.ticketForm answers 0 = ∅ ∧
        (∃ submission, done.1 = ⟨[.text Script.ticketForm.submit], [submission]⟩ ∧
          submission.Carries ticketTalk.session Script.ticketForm answers) ∧
        after.values.get? ticketTalk.keys.pointer = none ∧
        after.hashes.get? ticketTalk.keys.answers = none :=
  have hinput : Script.ticketForm.inputs[0]? =
      some ⟨"f", "f/a", "a", "please write the required data", .text, [], "", none⟩ := rfl
  turn_of_accepted_succeeds (c := ticketTalk) Script.compile_ticketSource (by decide) ticketStart
    Session.Store.healthy_inMemory rfl [.postback "form://f"] (.message "2" []) (by decide) hinput
    (by decide +kernel)

end Conversation

end Colloquy
