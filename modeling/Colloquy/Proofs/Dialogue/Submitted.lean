import Colloquy.Proofs.Dict
import Colloquy.Proofs.Dialogue.Consistency

/-!
What is submitted: the answers of exactly those inputs whose conditions hold for the submitted
answers, each as it was accepted on this way through the form.
-/

namespace Colloquy

open Session (Keeper Store)

/-- Conditions look back: an operand that leads to an input at all leads to an earlier one of the
same form. -/
def Script.OperandsPrecede (script : Script) : Prop :=
  ∀ form ∈ script.forms, ∀ (position : Nat) (input : Input),
    form.inputs[position]? = some input →
    ∀ (condition : Condition) (left : Input), input.condition = some condition →
      script.sibling? input.scope condition.left = some left →
        ∃ earlier < position, form.inputs[earlier]? = some left

instance (script : Script) : Decidable script.OperandsPrecede :=
  decidable_of_iff (∀ form ∈ script.forms, ∀ entry ∈ form.inputs.zipIdx,
      ∀ condition ∈ entry.1.condition, ∀ left ∈ script.sibling? entry.1.scope condition.left,
        left ∈ form.inputs.take entry.2) <| by
    simp only [Script.OperandsPrecede, Prod.forall, List.mk_mem_zipIdx_iff_getElem?,
      Option.mem_def, List.mem_take_iff_getElem]
    constructor
    · intro h form hform position input hinput condition left hcondition hleft
      obtain ⟨earlier, hlt, hget⟩ :=
        h form hform input position hinput condition hcondition left hleft
      exact ⟨earlier, by omega, List.getElem?_eq_some_iff.mpr ⟨by omega, hget⟩⟩
    · intro h form hform input position hinput condition hcondition left hleft
      obtain ⟨earlier, hlt, hget⟩ :=
        h form hform position input hinput condition left hcondition hleft
      obtain ⟨hlength, hget⟩ := List.getElem?_eq_some_iff.mp hget
      exact ⟨earlier, by omega, hget⟩

/-- Answering an input does not show or hide those up to it: no operand stands behind its
condition. -/
theorem Script.OperandsPrecede.shows_insert {script : Script} (h : script.OperandsPrecede)
    (hpaths : script.DistinctPaths) {form : Form} (hform : form ∈ script.forms) {position : Nat}
    {input : Input} (hinput : form.inputs[position]? = some input) {earlier : Nat} {other : Input}
    (hother : form.inputs[earlier]? = some other) (hle : earlier ≤ position)
    (answers : Dict String) (value : String) :
    script.shows (answers.insert input.path value) other = script.shows answers other := by
  refine Script.shows_congr fun condition left hcondition hleft => ?_
  obtain ⟨before, hbefore, hoperand⟩ :=
    h form hform earlier other hother condition left hcondition hleft
  rw [Dict.get?_insert, if_neg fun hpath => ?_]
  have := hpaths.position_eq hform hinput hoperand hpath
  omega

/-- The way through a form up to a position: the inputs that are shown have been answered, with the
answers that were taken. -/
structure Passed (script : Script) (form : Form) (answers : Dict String) (position : Nat)
    (taken : List (Input × String)) : Prop where
  below : form.AnswersBelow answers position
  shown : ∀ earlier < position, ∀ input, form.inputs[earlier]? = some input →
    ((answers.get? input.path).isSome ↔ script.shows answers input = true)
  taken : ∀ input ∈ form.inputs, ∀ value,
    answers.get? input.path = some value ↔ (input, value) ∈ taken

namespace Passed

variable {script : Script} {form : Form} {answers : Dict String} {position : Nat}
  {taken : List (Input × String)} {input : Input}

theorem start (script : Script) (form : Form) : Passed script form ∅ 0 [] := by
  refine ⟨form.answersBelow_empty 0, ?_, ?_⟩
  · intro earlier hlt
    omega
  · intro input _ value
    simp

variable (hpaths : script.DistinctPaths) (hform : form ∈ script.forms)

include hpaths hform

theorem get?_eq_none (h : Passed script form answers position taken) {later : Nat}
    (hinput : form.inputs[later]? = some input) (hle : position ≤ later) :
    answers.get? input.path = none := by
  rw [← Option.not_isSome_iff_eq_none, ← Dict.mem_keys_iff]
  intro hkey
  obtain ⟨earlier, hlt, other, hother, hpath⟩ := h.below _ hkey
  have := hpaths.position_eq hform hother hinput hpath
  omega

theorem skip (h : Passed script form answers position taken)
    (hinput : form.inputs[position]? = some input)
    (hhidden : ¬ script.shows answers input = true) :
    Passed script form answers (position + 1) taken := by
  refine ⟨h.below.mono (Nat.le_succ position), ?_, h.taken⟩
  intro earlier hlt other hother
  by_cases hlast : earlier = position
  · subst hlast
    obtain rfl : input = other := Option.some.inj (hinput.symm.trans hother)
    simp [h.get?_eq_none hpaths hform hinput (Nat.le_refl _), hhidden]
  · exact h.shown earlier (by omega) other hother

theorem answer (h : Passed script form answers position taken)
    (hoperands : script.OperandsPrecede) (hinput : form.inputs[position]? = some input)
    (hshown : script.shows answers input = true) (value : String) :
    Passed script form (answers.insert input.path value) (position + 1)
      (taken ++ [(input, value)]) := by
  refine ⟨h.below.insert hinput value, ?_, ?_⟩
  · intro earlier hlt other hother
    rw [hoperands.shows_insert hpaths hform hinput hother (by omega)]
    by_cases hlast : earlier = position
    · subst hlast
      obtain rfl : input = other := Option.some.inj (hinput.symm.trans hother)
      simp [hshown]
    · have hpath : input.path ≠ other.path := fun hpath =>
        hlast (hpaths.position_eq hform hinput hother hpath).symm
      rw [Dict.get?_insert, if_neg hpath]
      exact h.shown earlier (by omega) other hother
  · intro other hother newer
    obtain ⟨place, hplace⟩ := List.getElem?_of_mem hother
    rw [List.mem_append, ← h.taken other hother, List.mem_singleton, Prod.mk.injEq,
      Dict.get?_insert]
    by_cases hpath : input.path = other.path
    · have hsameplace := hpaths.position_eq hform hinput hplace hpath
      obtain rfl : input = other := by
        rw [hsameplace] at hinput
        exact Option.some.inj (hinput.symm.trans hplace)
      simp [h.get?_eq_none hpaths hform hinput (Nat.le_refl _), eq_comm]
    · have hne : other ≠ input := fun heq => hpath (congrArg Input.path heq.symm)
      simp [hpath, hne]

theorem skip_to (h : Passed script form answers position taken) {final : Nat}
    (hle : position ≤ final)
    (hhidden : ∀ passed, position ≤ passed → passed < final → ∀ input,
      form.inputs[passed]? = some input → ¬ script.shows answers input = true) :
    Passed script form answers final taken := by
  induction hle with
  | refl => exact h
  | @step middle hle ih =>
      have hmiddle := ih fun passed hfrom hto => hhidden passed hfrom (by omega)
      cases hinput : form.inputs[middle]? with
      | some input =>
          exact hmiddle.skip hpaths hform hinput
            (hhidden middle hle (Nat.lt_succ_self middle) input hinput)
      | none =>
          refine ⟨hmiddle.below.mono (Nat.le_succ middle), ?_, hmiddle.taken⟩
          intro earlier hlt input hat
          have hend := List.getElem?_eq_none_iff.mp hinput
          have := (List.getElem?_eq_some_iff.mp hat).1
          exact hmiddle.shown earlier (by omega) input hat

end Passed

/-- What a submission tells of a form: the answers of its visible inputs, as they were taken, and
nothing else. -/
structure Submission.Reports (submission : Submission) (script : Script) (form : Form)
    (taken : List (Input × String)) : Prop where
  declared : form ∈ script.forms
  formId : submission.formId = form.id
  action : submission.action = form.action
  keys : ∀ key ∈ submission.fields.keys, ∃ input ∈ form.inputs, input.id = key
  visible : ∀ input ∈ form.inputs, (submission.fields.get? input.id).isSome ↔
    input.condition = none ∨ ∃ condition left, input.condition = some condition ∧
      script.sibling? input.scope condition.left = some left ∧
      condition.holdsFor ((submission.fields.get? left.id).getD "") = true
  taken : ∀ input ∈ form.inputs, ∀ value,
    submission.fields.get? input.id = some value ↔ (input, value) ∈ taken

namespace Conversation

variable {c : Conversation} {form : Form} {answers : Dict String} {position : Nat}

section

variable (hlegible : c.script.Legible) (hform : c.script.form? form.id = some form)
  (hbelow : form.AnswersBelow answers position)

include hlegible hform hbelow

theorem exists_input_of_answered {path : String} (hpath : path ∈ answers.keys) :
    ∃ input ∈ form.inputs, input.path = path ∧ c.script.input? path = some input := by
  obtain ⟨earlier, _, input, hinput, rfl⟩ := hbelow path hpath
  exact ⟨input, List.mem_of_getElem? hinput, rfl,
    hlegible.paths.input?_eq (Script.mem_of_form? hform).1 hinput⟩

theorem answeredForm_eq : c.answeredForm answers form = form := by
  rw [answeredForm]
  cases hfirst : answers.keys.findSome? c.script.input? with
  | none => rfl
  | some first =>
      obtain ⟨path, hpath, hfound⟩ := List.exists_of_findSome?_eq_some hfirst
      obtain ⟨input, hinput, _, hinput?⟩ :=
        exists_input_of_answered hlegible hform hbelow hpath
      obtain rfl : input = first := Option.some.inj (hinput?.symm.trans hfound)
      rw [Option.bind_some, hlegible.formOf?_eq hform hinput, Option.getD_some]

theorem mem_fields_iff {id value : String} :
    (id, value) ∈ answers.entries.filterMap (fun (path, value) =>
        (c.script.input? path).map fun input => (input.id, value)) ↔
      ∃ input ∈ form.inputs, input.id = id ∧ answers.get? input.path = some value := by
  simp only [List.mem_filterMap, Prod.exists, Option.map_eq_some_iff, Prod.mk.injEq]
  constructor
  · rintro ⟨path, _, hentry, input, hfound, rfl, rfl⟩
    obtain ⟨other, hother, rfl, hother?⟩ :=
      exists_input_of_answered hlegible hform hbelow (List.mem_map_of_mem hentry)
    obtain rfl : other = input := Option.some.inj (hother?.symm.trans hfound)
    exact ⟨other, hother, rfl, Dict.get?_eq_some_iff.mpr hentry⟩
  · rintro ⟨input, hinput, rfl, hanswer⟩
    obtain ⟨place, hplace⟩ := List.getElem?_of_mem hinput
    exact ⟨input.path, value, Dict.get?_eq_some_iff.mp hanswer, input,
      hlegible.paths.input?_eq (Script.mem_of_form? hform).1 hplace, rfl, rfl⟩

theorem get?_fields_eq_some_iff {id value : String} :
    (c.fields answers).get? id = some value ↔
      ∃ input ∈ form.inputs, input.id = id ∧ answers.get? input.path = some value := by
  rw [fields, Dict.get?_ofList_eq_some_iff, mem_fields_iff hlegible hform hbelow]
  intro v w hv hw
  obtain ⟨input, hinput, rfl, hanswer⟩ := (mem_fields_iff hlegible hform hbelow).mp hv
  obtain ⟨other, hother, hid, hanother⟩ := (mem_fields_iff hlegible hform hbelow).mp hw
  have hdeclared := (Script.mem_of_form? hform).1
  rw [hlegible.named.path form hdeclared other hother, hid,
    ← hlegible.named.path form hdeclared input hinput, hanswer] at hanother
  exact Option.some.inj hanother

theorem get?_fields {input : Input} (hinput : input ∈ form.inputs) :
    (c.fields answers).get? input.id = answers.get? input.path := by
  ext value
  rw [get?_fields_eq_some_iff hlegible hform hbelow]
  constructor
  · rintro ⟨other, hother, hid, hanswer⟩
    have hdeclared := (Script.mem_of_form? hform).1
    rwa [hlegible.named.path form hdeclared other hother, hid,
      ← hlegible.named.path form hdeclared input hinput] at hanswer
  · intro hanswer
    exact ⟨input, hinput, rfl, hanswer⟩

end

theorem reports_submission (hlegible : c.script.Legible)
    (hoperands : c.script.OperandsPrecede) (hform : c.script.form? form.id = some form)
    {taken : List (Input × String)} (h : Passed c.script form answers position taken)
    (hend : form.inputs[position]? = none) :
    (c.submission answers form).Reports c.script form taken := by
  have hdeclared := (Script.mem_of_form? hform).1
  have hfields : ∀ {input : Input}, input ∈ form.inputs →
      (c.fields answers).get? input.id = answers.get? input.path :=
    get?_fields hlegible hform h.below
  have hanswered : c.answeredForm answers form = form := answeredForm_eq hlegible hform h.below
  refine ⟨hdeclared, congrArg Form.id hanswered, congrArg Form.action hanswered, ?_, ?_, ?_⟩
  · intro key hkey
    obtain ⟨value, hvalue⟩ := Option.isSome_iff_exists.mp (Dict.mem_keys_iff.mp hkey)
    obtain ⟨input, hinput, hid, _⟩ :=
      (get?_fields_eq_some_iff hlegible hform h.below).mp hvalue
    exact ⟨input, hinput, hid⟩
  · intro input hinput
    obtain ⟨place, hplace⟩ := List.getElem?_of_mem hinput
    have hlt : place < position := by
      have := (List.getElem?_eq_some_iff.mp hplace).1
      have := List.getElem?_eq_none_iff.mp hend
      omega
    have hvisible := h.shown place hlt input hplace
    rw [← hfields hinput, Script.shows_iff] at hvisible
    refine hvisible.trans (or_congr_right ?_)
    refine exists_congr fun condition => exists_congr fun left => ?_
    refine and_congr_right fun hcondition => and_congr_right fun hleft => ?_
    obtain ⟨earlier, _, hoperand⟩ :=
      hoperands form hdeclared place input hplace condition left hcondition hleft
    rw [← hfields (List.mem_of_getElem? hoperand)]
    rfl
  · intro input hinput value
    rw [← h.taken input hinput, ← hfields hinput]
    rfl

end Conversation

/-- The answers taken are those on the way to where the session stands. -/
def Standing.Passes (script : Script) (taken : List (Input × String)) : Standing → Prop
  | .outside => True
  | .inside form position answers => Passed script form answers position taken

namespace Conversation

variable {κ : Type} {c : Conversation} {form : Form} {answers : Dict String} {position : Nat}

/-- The answers taken on the present way through a form, after one more event. -/
def accept (c : Conversation) (event : Event) (store : Store κ)
    (taken : List (Input × String)) : List (Input × String) :=
  (if event.restarts ∨ c.pending? store = none then [] else taken) ++
    (c.accepted? event store).toList

section

variable {store : Store κ} {event : Event} {input : Input} {taken : List (Input × String)}

theorem accept_of_quiet (hpending : c.pending? store = some input)
    (hquiet : event.restarts = false) (hrejected : c.accepted? event store = none) :
    c.accept event store taken = taken := by
  simp [accept, hquiet, hrejected, hpending]

theorem accept_of_outside (hpending : c.pending? store = none) :
    c.accept event store taken = [] := by
  simp [accept, hpending, accepted?_of_pending?_none hpending]

theorem accept_of_restarts (hrestarts : event.restarts = true) :
    c.accept event store taken = [] := by
  simp [accept, hrestarts, accepted?_of_restarts hrestarts]

theorem accept_of_accepted {value : String}
    (haccepted : c.accepted? event store = some (input, value)) :
    c.accept event store taken = taken ++ [(input, value)] := by
  have hquiet : ¬ event.restarts = true := by
    intro hrestarts
    simp [accepted?_of_restarts hrestarts] at haccepted
  simp [accept, hquiet, pending?_of_accepted? haccepted, haccepted]

end

/-- The search passes on what was taken: to a submission, or to the place where it ends. -/
theorem passes_search (hlegible : c.script.Legible)
    (hoperands : c.script.OperandsPrecede) (hform : c.script.form? form.id = some form)
    {taken : List (Input × String)} (h : Passed c.script form answers position taken) :
    (∀ submission ∈ (c.search form answers position).1.submissions,
      submission.session = c.session ∧ ∃ form, submission.Reports c.script form taken) ∧
    (c.search form answers position).2.Passes c.script taken := by
  obtain ⟨final, hle, hhidden, hend⟩ := exists_search_end c form answers position
  have hfinal := h.skip_to hlegible.paths (Script.mem_of_form? hform).1 hle hhidden
  rcases hend with ⟨input, hinput, hshown, hsearch⟩ | ⟨hbehind, hsearch⟩
  · rw [hsearch]
    refine ⟨?_, hfinal⟩
    intro submission hsubmission
    cases hsubmission
  · rw [hsearch]
    refine ⟨?_, trivial⟩
    intro submission hsubmission
    obtain rfl := List.mem_singleton.mp hsubmission
    exact ⟨rfl, form, reports_submission hlegible hoperands hform hfinal hbehind⟩

theorem Moves.passes (hlegible : c.script.Legible) (hoperands : c.script.OperandsPrecede)
    {store : Store κ} (hstore : store.broken = []) {event : Event} {standing next : Standing}
    {submissions : List Submission} (hmoves : c.Moves store event standing submissions next)
    (hstands : c.Stands store standing) (hshown : standing.Shown c.script)
    {taken : List (Input × String)} (hpasses : standing.Passes c.script taken) :
    (∀ submission ∈ submissions, submission.session = c.session ∧
      ∃ form, submission.Reports c.script form (c.accept event store taken)) ∧
    next.Passes c.script (c.accept event store taken) := by
  cases hmoves with
  | rest quiet rejected =>
      refine ⟨?_, ?_⟩
      · intro submission hsubmission
        cases hsubmission
      cases standing with
      | outside => trivial
      | inside form position answers =>
          obtain ⟨input, hinput, _⟩ := hstands.2.1
          have hpending := pending?_of_inside hlegible hstore hstands hinput
          rwa [accept_of_quiet hpending quiet rejected]
  | restart restarts =>
      refine ⟨?_, trivial⟩
      intro submission hsubmission
      cases hsubmission
  | enter declared fresh =>
      have hnone : c.accept event store taken = [] := by
        rcases fresh with rfl | hrestarts
        · exact accept_of_outside (pending?_of_outside hstore hstands)
        · exact accept_of_restarts hrestarts
      rw [hnone]
      exact passes_search hlegible hoperands declared (Passed.start c.script _)
  | @answer form position answers input value pending accepted =>
      obtain ⟨shown, hshown, hvisible⟩ := hshown
      obtain rfl : input = shown := Option.some.inj (pending.symm.trans hshown)
      rw [accept_of_accepted accepted]
      exact passes_search hlegible hoperands hstands.1
        (hpasses.answer hlegible.paths (Script.mem_of_form? hstands.1).1 hoperands pending
          hvisible value)

variable [Keeper κ]

/-- The answers taken on the way through a form that the session is on after events. -/
def taken (c : Conversation) (events : List Event) (start : World κ) : List (Input × String) :=
  (events.foldl
    (fun state event =>
      (c.accept event state.2.store state.1, (c.handle event state.2).2)) ([], start)).1

theorem taken_append_singleton (events : List Event) (event : Event) (start : World κ) :
    c.taken (events ++ [event]) start =
      c.accept event (c.run events start).store (c.taken events start) := by
  have hworld : ∀ taken : List (Input × String), (events.foldl
      (fun state event => (c.accept event state.2.store state.1, (c.handle event state.2).2))
      (taken, start)).2 = c.run events start := by
    induction events generalizing start with
    | nil => exact fun _ => rfl
    | cons first events ih => exact fun taken => ih _ _
  simp [taken, hworld]

/-- After any events, what an event submits reports a form of the script with the answers that were
taken on the way through it. -/
theorem exists_form_of_submitted {source fallbackId : String}
    (hcompiled : Script.compile source fallbackId = .ok c.script)
    (hpaths : c.script.DistinctPaths) (hoperands : c.script.OperandsPrecede)
    (start : World κ) (hstore : start.store.Healthy) (hempty : start.store.snapshot = ∅)
    (events : List Event) (event : Event) {submission : Submission}
    (hsubmitted : submission ∈ (c.turn event (c.run events start)).1.submissions) :
    submission.session = c.session ∧
      ∃ form, submission.Reports c.script form (c.taken (events ++ [event]) start) := by
  have hlegible : c.script.Legible := ⟨hpaths, Script.compile_inputsNamed hcompiled⟩
  obtain ⟨hhealthy, standing, hstands, hshown, hpasses⟩ :=
    exists_standing_run hlegible hstore hempty
      (P := fun past standing => standing.Passes c.script (c.taken past start)) trivial
      (fun past event standing submissions next hhealthy hstands hshown hpasses hmove => by
        rw [taken_append_singleton]
        exact (hmove.passes hlegible hoperands hhealthy.intact hstands hshown hpasses).2) events
  obtain ⟨submissions, next, hmove, effects, hsteps, hdelivered, _⟩ :=
    exists_moves_handle hlegible hhealthy hstands hshown event
  have hturn : (c.turn event (c.run events start)).1.submissions = submissions :=
    hsteps.delivered_drop.trans hdelivered
  rw [taken_append_singleton]
  exact (hmove.passes hlegible hoperands hhealthy.intact hstands hshown hpasses).1 submission
    (hturn ▸ hsubmitted)

theorem exists_form_of_submitted_ticket :
    let submission : Submission :=
      ⟨"s", "f", "http://a/", .ofList [("a", "1"), ("b", "x")]⟩
    submission.session = ticketTalk.session ∧
      ∃ form, submission.Reports ticketTalk.script form
        (ticketTalk.taken (ticketEvents ++ [.message "x" []]) ticketStart) :=
  exists_form_of_submitted (c := ticketTalk) Script.compile_ticketSource (by decide) (by decide)
    ticketStart Session.Store.healthy_inMemory rfl ticketEvents (.message "x" [])
    (by decide +kernel)

end Conversation

end Colloquy
