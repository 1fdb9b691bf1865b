import Colloquy.Proofs.Dialogue.Standing

/-!
How events move a session through the forms of its script: they leave it where it is, take it out of
its form, open a form, or answer the pending input.
-/

namespace Colloquy

open Session (Keeper Store Write)

/-- Whether an event makes the session start over. -/
def Event.restarts : Event → Bool
  | .postback payload =>
    payload ≠ Conversation.getStarted &&
      match Routing.Token.parse payload with
      | .ok token => token.requestsReset
      | .error _ => false
  | _ => false

/-- The input at which a session stands is one that is asked. -/
def Standing.Shown (script : Script) : Standing → Prop
  | .outside => True
  | .inside form position answers =>
    ∃ input, form.inputs[position]? = some input ∧ script.shows answers input = true

namespace Conversation

variable {κ : Type}

/-- The pending input and the answer that a message gives to it. -/
def written? (c : Conversation) (content : String) (attachments : List String)
    (store : Store κ) : Option (Input × String) :=
  (c.pending? store).bind fun pending =>
    match pending.kind with
    | .text => some (pending, content)
    | .file => attachments.head?.map fun url => (pending, url)
    | .options | .other _ => none

/-- The pending input and the answer that an option button gives to it. -/
def chosen? (c : Conversation) (token : Routing.Token) (store : Store κ) :
    Option (Input × String) :=
  (c.pending? store).bind fun pending =>
    if pending.kind = .options ∧
        ¬ (token.param? Routing.Token.inputParam).any (· ≠ pending.path) then
      (selected? pending token).map fun choice => (pending, choice.key)
    else none

/-- The pending input that an event answers, with the answer. -/
def accepted? (c : Conversation) (event : Event) (store : Store κ) : Option (Input × String) :=
  match event with
  | .optIn => none
  | .message content attachments => c.written? content attachments store
  | .postback payload =>
    if payload = getStarted then none
    else
      match Routing.Token.parse payload with
      | .error _ => none
      | .ok token =>
        if token.scheme = .answer ∧ ¬ token.requestsReset then c.chosen? token store else none

variable {c : Conversation} {store : Store κ}

theorem accepted?_of_pending?_none {event : Event} (h : c.pending? store = none) :
    c.accepted? event store = none := by
  unfold accepted?
  split
  · rfl
  · simp [written?, h]
  · split
    · rfl
    · split
      · rfl
      · simp [chosen?, h]

theorem accepted?_of_restarts {event : Event} (h : event.restarts = true) :
    c.accepted? event store = none := by
  cases event with
  | optIn => rfl
  | message content attachments => simp [Event.restarts] at h
  | postback payload =>
      simp only [Event.restarts, Bool.and_eq_true, decide_eq_true_eq] at h
      obtain ⟨hpayload, hreset⟩ := h
      rw [accepted?, if_neg hpayload]
      split
      · rfl
      · next token hparse =>
        rw [hparse] at hreset
        exact if_neg fun hscheme => hscheme.2 hreset

theorem pending?_of_written? {content : String} {attachments : List String} {input : Input}
    {value : String} (h : c.written? content attachments store = some (input, value)) :
    c.pending? store = some input := by
  obtain ⟨pending, hpending, hkind⟩ := Option.bind_eq_some_iff.mp h
  rw [hpending]
  split at hkind
  · cases hkind
    rfl
  · obtain ⟨url, _, hanswer⟩ := Option.map_eq_some_iff.mp hkind
    cases hanswer
    rfl
  · cases hkind
  · cases hkind

theorem pending?_of_chosen? {token : Routing.Token} {input : Input} {value : String}
    (h : c.chosen? token store = some (input, value)) : c.pending? store = some input := by
  obtain ⟨pending, hpending, hchoice⟩ := Option.bind_eq_some_iff.mp h
  rw [hpending]
  split at hchoice
  · obtain ⟨choice, _, hanswer⟩ := Option.map_eq_some_iff.mp hchoice
    cases hanswer
    rfl
  · cases hchoice

theorem pending?_of_accepted? {event : Event} {input : Input} {value : String}
    (h : c.accepted? event store = some (input, value)) : c.pending? store = some input := by
  unfold accepted? at h
  split at h
  · cases h
  · exact pending?_of_written? h
  · split at h
    · cases h
    · split at h
      · cases h
      · split at h
        · exact pending?_of_chosen? h
        · cases h

variable [Keeper κ] {world after : World κ}

/-- Nothing is stored or delivered. -/
def Rests (c : Conversation) (world after : World κ) : Prop :=
  ∃ effects, Steps c world effects after ∧ delivered effects = [] ∧ after.store = world.store

theorem Rests.refl (world : World κ) : c.Rests world world := ⟨[], .refl world, rfl, rfl⟩

/-- Nothing is done but that the composer may be asked. -/
def Idles (c : Conversation) (world after : World κ) : Prop :=
  after.store = world.store ∧
    ∃ effects, Steps c world effects after ∧ ∀ effect ∈ effects, ∃ url, effect = .ask url

theorem Idles.refl (world : World κ) : c.Idles world world :=
  ⟨rfl, [], .refl world, fun _ h => absurd h List.not_mem_nil⟩

theorem Idles.rests (h : c.Idles world after) : c.Rests world after := by
  obtain ⟨hstore, effects, hsteps, hasks⟩ := h
  refine ⟨effects, hsteps, ?_, hstore⟩
  refine List.filterMap_eq_nil_iff.mpr fun effect heffect => ?_
  obtain ⟨url, rfl⟩ := hasks effect heffect
  rfl

theorem idles_reply (content : String) (world : World κ) :
    c.Idles world (c.engine.reply content world).2 := by
  unfold Engine.reply
  split
  · exact ⟨rfl, [], .stay world _, fun _ h => absurd h List.not_mem_nil⟩
  · split
    · refine ⟨rfl, _, .ask (.refl _), fun effect heffect => ?_⟩
      exact ⟨_, List.mem_singleton.mp heffect⟩
    · exact .refl world

theorem handleMessage_of_written {content : String} {attachments : List String} {input : Input}
    {value : String} (h : c.written? content attachments world.store = some (input, value)) :
    c.handleMessage content attachments world = c.answer input value world := by
  obtain ⟨pending, hpending, hanswer⟩ := Option.bind_eq_some_iff.mp h
  unfold handleMessage
  rw [hpending]
  cases hkind : pending.kind with
  | text =>
      simp only [hkind, Option.some.injEq, Prod.mk.injEq] at hanswer ⊢
      obtain ⟨rfl, rfl⟩ := hanswer
      rfl
  | file =>
      cases attachments with
      | nil => simp [hkind] at hanswer
      | cons url others =>
          simp only [hkind, List.head?_cons, Option.map_some, Option.some.injEq,
            Prod.mk.injEq] at hanswer ⊢
          obtain ⟨rfl, rfl⟩ := hanswer
          rfl
  | options => simp [hkind] at hanswer
  | other name => simp [hkind] at hanswer

theorem idles_handleMessage {content : String} {attachments : List String}
    (h : c.written? content attachments world.store = none) :
    c.Idles world (c.handleMessage content attachments world).2 := by
  unfold handleMessage
  cases hpending : c.pending? world.store with
  | none => exact idles_reply content world
  | some pending =>
      simp only [written?, hpending, Option.bind_some] at h
      cases hkind : pending.kind with
      | text => simp [hkind] at h
      | file =>
          cases attachments with
          | nil => simpa [hkind] using .refl world
          | cons url others => simp [hkind] at h
      | options => simpa [hkind] using .refl world
      | other name => simpa [hkind] using .refl world

theorem handleOption_of_chosen {token : Routing.Token} {input : Input} {value : String}
    (h : c.chosen? token world.store = some (input, value)) :
    c.handleOption token world = c.answer input value world := by
  obtain ⟨pending, hpending, hchoice⟩ := Option.bind_eq_some_iff.mp h
  unfold handleOption
  rw [hpending]
  dsimp only
  split at hchoice
  · next hopen =>
    obtain ⟨choice, hselected, hanswer⟩ := Option.map_eq_some_iff.mp hchoice
    cases hanswer
    rw [hopen.1]
    simp only [if_neg hopen.2, hselected]
  · cases hchoice

theorem rests_handleOption {token : Routing.Token} (h : c.chosen? token world.store = none) :
    (c.handleOption token world).2 = world := by
  unfold handleOption
  cases hpending : c.pending? world.store with
  | none => rfl
  | some pending =>
      simp only [chosen?, hpending, Option.bind_some] at h
      cases hkind : pending.kind with
      | options =>
          by_cases hpath : (token.param? Routing.Token.inputParam).any (· ≠ pending.path) = true
          · simp only [hkind, if_pos hpath]
          · rw [if_pos ⟨hkind, hpath⟩, Option.map_eq_none_iff] at h
            simp only [hkind, if_neg hpath, h]
      | file => simp only [hkind]
      | text => simp only [hkind]
      | other name => simp only [hkind]

theorem handle_of_accepted {event : Event} {input : Input} {value : String}
    (h : c.accepted? event world.store = some (input, value)) :
    c.handle event world = c.answer input value world := by
  cases event with
  | optIn => simp [accepted?] at h
  | message content attachments => exact handleMessage_of_written h
  | postback payload =>
      by_cases hpayload : payload = getStarted
      · simp [accepted?, hpayload] at h
      · cases hparse : Routing.Token.parse payload with
        | error fault => simp [accepted?, hpayload, hparse] at h
        | ok token =>
            simp only [accepted?, hpayload, hparse, if_false] at h
            split at h
            · next hscheme =>
              rw [handle, handlePostback, if_neg hpayload, hparse]
              simp only [if_neg hscheme.2, follow, hscheme.1]
              exact handleOption_of_chosen h
            · cases h

/-- The ways in which an event can move a session, with the submissions that it delivers. -/
inductive Moves (c : Conversation) (store : Store κ) (event : Event) :
    Standing → List Submission → Standing → Prop where
  | rest {standing : Standing} (quiet : event.restarts = false)
      (rejected : c.accepted? event store = none) : Moves c store event standing [] standing
  | restart {standing : Standing} (restarts : event.restarts = true) :
      Moves c store event standing [] .outside
  | enter {standing : Standing} {form : Form} (declared : c.script.form? form.id = some form)
      (fresh : standing = .outside ∨ event.restarts = true) :
      Moves c store event standing (c.search form ∅ 0).1.submissions (c.search form ∅ 0).2
  | answer {form : Form} {position : Nat} {answers : Dict String} {input : Input}
      {value : String} (pending : form.inputs[position]? = some input)
      (accepted : c.accepted? event store = some (input, value)) :
      Moves c store event (.inside form position answers)
        (c.search form (answers.insert input.path value) (position + 1)).1.submissions
        (c.search form (answers.insert input.path value) (position + 1)).2

/-- From a world, the session comes to a standing and delivers the submissions on the way. -/
def Arrives (c : Conversation) (world after : World κ) (submissions : List Submission)
    (standing : Standing) : Prop :=
  ∃ effects, Steps c world effects after ∧ delivered effects = submissions ∧
    c.Stands after.store standing

theorem Settles.arrives {result : List Message × World κ} {outcome : Turn × Standing}
    (h : c.Settles world result outcome) :
    c.Arrives world result.2 outcome.1.submissions outcome.2 := by
  obtain ⟨_, ⟨effects, hsteps, hdelivered⟩, hstands⟩ := h
  exact ⟨effects, hsteps, hdelivered, hstands⟩

theorem Rests.arrives {standing : Standing} (h : c.Rests world after)
    (hstands : c.Stands world.store standing) : c.Arrives world after [] standing := by
  obtain ⟨effects, hsteps, hdelivered, hstore⟩ := h
  exact ⟨effects, hsteps, hdelivered, hstore ▸ hstands⟩

theorem Arrives.reset {submissions : List Submission} {standing : Standing}
    (h : c.Arrives (c.reset world).2 after submissions standing) :
    c.Arrives world after submissions standing := by
  obtain ⟨effects, hsteps, hdelivered, hstands⟩ := h
  have hadvance : Steps c (world.write (.deleteHash c.keys.answers)).2 _ after :=
    .write (.delete c.keys.pointer) rfl hsteps
  exact ⟨_, .write (.deleteHash c.keys.answers) rfl hadvance, hdelivered, hstands⟩

theorem outside_reset (hworld : world.store.Healthy) :
    c.Stands (c.reset world).2.store .outside := by
  simp [reset, advance, Stands, hworld.snapshot_write, (hworld.write _).snapshot_write,
    Write.apply]

theorem healthy_reset (hworld : world.store.Healthy) : (c.reset world).2.store.Healthy :=
  (hworld.write _).write _

section

variable (hlegible : c.script.Legible) {standing : Standing} {form : Form}

include hlegible

theorem arrives_presentForm (hworld : world.store.Healthy) (h : c.Stands world.store .outside)
    (hform : c.script.form? form.id = some form) (hinputs : form.inputs ≠ []) :
    c.Arrives world (c.presentForm form world).2 (c.search form ∅ 0).1.submissions
      (c.search form ∅ 0).2 := by
  obtain ⟨first, rest, hfirst⟩ := List.exists_cons_of_ne_nil hinputs
  have hinput : form.inputs[0]? = some first := by simp [hfirst]
  have hpath := hlegible.path_ne_empty (Script.mem_of_form? hform).1
    (List.mem_of_getElem? hinput)
  have hkept : (c.advance first.path world).1 = true := World.write_of_healthy hworld _
  have hentered : c.Stands (c.advance first.path world).2.store (.inside form 0 ∅) := by
    refine ⟨hform, ⟨first, hinput, ?_⟩, ?_⟩
    · simp [advance, hpath, hworld.snapshot_write, Write.apply]
    · simp only [advance, hpath, if_false, World.store_write, hworld.snapshot_write,
        Session.Snapshot.hash_set]
      rw [Session.Snapshot.hash, h.2]
      rfl
  have hsettled := settles_presentFrom hlegible (hworld.write _) hentered hinput
  have hpresent : (c.presentForm form world).2 =
      (c.presentFrom first (c.advance first.path world).2).2 := by
    simp [presentForm, Form.firstInput?, hfirst, pending?_of_outside hworld.intact h, hkept]
  rw [hpresent]
  refine (Settles.write _ ?_ hsettled).arrives
  split <;> rfl

theorem follow_of_outside (hworld : world.store.Healthy) (h : c.Stands world.store .outside)
    (token : Routing.Token) :
    c.Arrives world (c.follow token world).2 [] .outside ∨
      ∃ form, c.script.form? form.id = some form ∧
        c.Arrives world (c.follow token world).2 (c.search form ∅ 0).1.submissions
          (c.search form ∅ 0).2 := by
  unfold follow
  split
  · left
    split <;> exact (Rests.refl world).arrives h
  · split
    · next form hfound =>
      have hform := Script.form?_id hfound
      by_cases hinputs : form.inputs = []
      · left
        simpa [presentForm, Form.firstInput?, hinputs] using (Rests.refl world).arrives h
      · exact .inr ⟨form, hform, arrives_presentForm hlegible hworld h hform hinputs⟩
    · exact .inl ((Rests.refl world).arrives h)
  · left
    simpa [handleOption, pending?_of_outside hworld.intact h] using
      (Rests.refl world).arrives h
  · exact .inl ((Rests.refl world).arrives h)

/-- Inside a form, only an option button can do anything to a session whose pending input is
shown. -/
theorem follow_of_inside (hworld : world.store.Healthy) {position : Nat} {answers : Dict String}
    (h : c.Stands world.store (.inside form position answers))
    (hshown : (Standing.inside form position answers).Shown c.script) {token : Routing.Token}
    (hrejected : token.scheme = .answer → c.chosen? token world.store = none) :
    (c.follow token world).2 = world := by
  obtain ⟨pending, hpending, hvisible⟩ := hshown
  unfold follow
  split
  · split <;> rfl
  · split
    · next opened _ =>
      have hvisible' : c.isVisible pending world.store = true := by
        rw [isVisible_of_intact hworld.intact, h.2.2, hvisible]
      unfold presentForm
      cases opened.firstInput? with
      | none => rfl
      | some first =>
          simp only [pending?_of_inside hlegible hworld.intact h hpending,
            presentFrom_of_visible hvisible']
    · rfl
  · next hscheme => exact rests_handleOption (hrejected hscheme)
  · rfl

theorem exists_moves_handlePostback (hworld : world.store.Healthy)
    (h : c.Stands world.store standing) (hshown : standing.Shown c.script) {payload : String}
    (hrejected : c.accepted? (.postback payload) world.store = none) :
    ∃ submissions next, c.Moves world.store (.postback payload) standing submissions next ∧
      c.Arrives world (c.handlePostback payload world).2 submissions next := by
  unfold handlePostback
  by_cases hpayload : payload = getStarted
  · rw [if_pos hpayload]
    exact ⟨[], standing, .rest (by simp [Event.restarts, hpayload]) hrejected,
      (Rests.refl world).arrives h⟩
  rw [if_neg hpayload]
  cases hparse : Routing.Token.parse payload with
  | error fault =>
      exact ⟨[], standing, .rest (by simp [Event.restarts, hparse]) hrejected,
        (Rests.refl world).arrives h⟩
  | ok token =>
      have hrestarts : Event.restarts (.postback payload) = token.requestsReset := by
        simp [Event.restarts, hpayload, hparse]
      by_cases hreset : token.requestsReset = true
      · simp only [if_pos hreset]
        rcases follow_of_outside hlegible (healthy_reset hworld) (outside_reset hworld) token with
          hquiet | ⟨form, hform, hentered⟩
        · exact ⟨[], .outside, .restart (hrestarts.trans hreset), hquiet.reset⟩
        · exact ⟨_, _, .enter hform (.inr (hrestarts.trans hreset)), hentered.reset⟩
      · simp only [if_neg hreset]
        have hquiet : Event.restarts (.postback payload) = false := by
          rw [hrestarts]
          simpa using hreset
        cases standing with
        | outside =>
            rcases follow_of_outside hlegible hworld h token with
              hstays | ⟨form, hform, hentered⟩
            · exact ⟨[], .outside, .rest hquiet hrejected, hstays⟩
            · exact ⟨_, _, .enter hform (.inl rfl), hentered⟩
        | inside form position answers =>
            have hstays : (c.follow token world).2 = world := by
              refine follow_of_inside hlegible hworld h hshown fun hscheme => ?_
              simpa [accepted?, hpayload, hparse, hscheme, hreset] using hrejected
            rw [hstays]
            exact ⟨[], _, .rest hquiet hrejected, (Rests.refl world).arrives h⟩

/-- What an event does to a session is one of the moves. -/
theorem exists_moves_handle (hworld : world.store.Healthy) (h : c.Stands world.store standing)
    (hshown : standing.Shown c.script) (event : Event) :
    ∃ submissions next, c.Moves world.store event standing submissions next ∧
      c.Arrives world (c.handle event world).2 submissions next := by
  cases haccepted : c.accepted? event world.store with
  | some answered =>
      obtain ⟨input, value⟩ := answered
      obtain ⟨form, position, answers, rfl, hinput⟩ := exists_inside_of_pending? hlegible
        hworld.intact h (pending?_of_accepted? haccepted)
      refine ⟨_, _, .answer hinput haccepted, ?_⟩
      rw [handle_of_accepted haccepted]
      exact (settles_answer hlegible hworld h hinput value).arrives
  | none =>
      cases event with
      | optIn => exact ⟨[], standing, .rest rfl haccepted, (Rests.refl world).arrives h⟩
      | message content attachments =>
          exact ⟨[], standing, .rest rfl haccepted, (idles_handleMessage haccepted).rests.arrives h⟩
      | postback payload => exact exists_moves_handlePostback hlegible hworld h hshown haccepted

end

end Conversation

end Colloquy
