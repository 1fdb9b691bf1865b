import Colloquy.Proofs.Dialogue.Consistency
import Colloquy.Proofs.Dialogue.Handover
import Colloquy.Proofs.Dict

/-!
Sessions in bad times: during each event, some operations of the store fail.  The answers of such a
session stay in the store until they are delivered; what cannot be read then is lost.
-/

namespace Colloquy

open Session (Keeper Operation Reliable Store)

namespace Script

variable {script : Script} {answers : Dict String}

/-- Each answer belongs to an input of the script. -/
def Knows (script : Script) (answers : Dict String) : Prop :=
  ∀ path ∈ answers.keys, ∃ input, script.input? path = some input

/-- No two answers belong to inputs with the same local identifier. -/
def TellsApart (script : Script) (answers : Dict String) : Prop :=
  ∀ path ∈ answers.keys, ∀ other ∈ answers.keys, ∀ input rival,
    script.input? path = some input → script.input? other = some rival →
      rival.id = input.id → other = path

theorem knows_empty (script : Script) : script.Knows ∅ := by
  intro path hpath
  cases hpath

theorem Knows.insert (h : script.Knows answers) {input : Input}
    (hinput : script.input? input.path = some input) (value : String) :
    script.Knows (answers.insert input.path value) := by
  intro path hpath
  by_cases heq : input.path = path
  · subst heq
    exact ⟨input, hinput⟩
  · rw [Dict.mem_keys_iff, Dict.get?_insert, if_neg heq, ← Dict.mem_keys_iff] at hpath
    exact h path hpath

theorem tellsApart_of_below (hlegible : script.Legible) {form : Form} {position : Nat}
    (hform : form ∈ script.forms) (h : form.AnswersBelow answers position) :
    script.TellsApart answers := by
  have hown : ∀ path ∈ answers.keys, ∀ input, script.input? path = some input →
      path = inputPath form.id input.id := by
    intro path hpath input hfound
    obtain ⟨earlier, _, own, hown, rfl⟩ := h path hpath
    have hinput? := hlegible.paths.input?_eq hform hown
    obtain rfl : own = input := Option.some.inj (hinput?.symm.trans hfound)
    exact hlegible.named.path form hform own (List.mem_of_getElem? hown)
  intro path hpath other hother input rival hinput hrival hid
  rw [hown path hpath input hinput, hown other hother rival hrival, hid]

end Script

/-- The world in bad times: these operations of its store fail. -/
def World.under {κ : Type} (failing : List Operation) (world : World κ) : World κ :=
  { world with store := { world.store with broken := failing } }

namespace Conversation

variable {κ : Type} {c : Conversation} {store : Store κ} {answers : Dict String}

theorem input?_of_pending? {input : Input} (h : c.pending? store = some input) :
    store.snapshot.value c.keys.pointer ≠ "" ∧
      c.script.input? (store.snapshot.value c.keys.pointer) = some input := by
  unfold pending? at h
  split at h
  · next path hget =>
    obtain rfl : path = store.snapshot.value c.keys.pointer := by
      unfold Store.get Store.read at hget
      split at hget
      · cases hget
      · exact (Except.ok.inj hget).symm
    split at h
    · cases h
    · next hpath => exact ⟨hpath, h⟩
  · cases h

theorem knows_held (h : c.script.Knows (c.stored store)) {answer? : Option (Input × String)}
    (hpending : ∀ input value, answer? = some (input, value) → c.pending? store = some input) :
    c.script.Knows (c.held answer? store) := by
  cases answer? with
  | none => exact h
  | some answer =>
      obtain ⟨input, value⟩ := answer
      unfold held
      dsimp only
      split
      · exact h
      · obtain ⟨_, hinput⟩ := input?_of_pending? (hpending input value rfl)
        have hpath := Script.path_input? hinput
        exact h.insert (hpath ▸ hinput) value

variable [Keeper κ] {world after : World κ}

theorem Comes.pending {answer? : Option (Input × String)} {result : List Message × World κ}
    (h : c.Comes world answer? result) (input : Input) (value : String)
    (hanswer : answer? = some (input, value)) : c.pending? world.store = some input := by
  cases h with
  | answer given hpending =>
      cases hanswer
      exact hpending
  | present declared => cases hanswer
  | idle idles => cases hanswer

theorem HandsOver.knows (h : c.HandsOver answers world after) (hknows : c.script.Knows answers) :
    c.script.Knows (c.stored after.store) := by
  obtain ⟨effects, _, hstay | ⟨hgone, _⟩⟩ := h
  · rw [hstay]
    exact hknows
  · rw [hgone]
    exact c.script.knows_empty

theorem Steps.reliable {effects : List Effect} (h : Steps c world effects after)
    (hworld : Reliable world.store.keeper) : Reliable after.store.keeper := by
  induction h with
  | stay world picker => exact hworld
  | write change own rest ih => exact ih (hworld.write change)
  | deliver own rest ih => exact ih hworld
  | ask rest ih => exact ih hworld

theorem reliable_handle (hworld : Reliable world.store.keeper) (event : Event) :
    Reliable (c.handle event world).2.store.keeper := by
  obtain ⟨effects, hsteps⟩ := reaches_handle (c := c) event world
  exact hsteps.reliable hworld

theorem outset_cases (event : Event) (world : World κ) :
    c.outset event world = world ∨ c.outset event world = (c.reset world).2 := by
  unfold outset
  split
  · exact .inr rfl
  · exact .inl rfl

theorem knows_handle (hworld : Reliable world.store.keeper)
    (h : c.script.Knows (c.stored world.store)) (event : Event) :
    c.script.Knows (c.stored (c.handle event world).2.store) := by
  have hreset : Reliable (c.reset world).2.store.keeper := by
    obtain ⟨effects, hsteps⟩ := reaches_reset (.refl (c.reset world).2)
    exact hsteps.reliable hworld
  have houtset : Reliable (c.outset event world).store.keeper ∧
      c.script.Knows (c.stored (c.outset event world).store) := by
    rcases outset_cases (c := c) event world with hsame | hfresh
    · rw [hsame]
      exact ⟨hworld, h⟩
    · rw [hfresh]
      refine ⟨hreset, ?_⟩
      rcases stored_reset (c := c) world with hstay | hgone
      · rw [hstay]
        exact h
      · rw [hgone]
        exact c.script.knows_empty
  obtain ⟨answer?, _, hcomes⟩ := handle_comes (c := c) event world
  exact (hcomes.handsOver houtset.1).knows (knows_held houtset.2 hcomes.pending)

/-- The world after events, during each of which some operations failed. -/
def endure (c : Conversation) (trials : List (List Operation × Event)) (world : World κ) :
    World κ :=
  trials.foldl (fun world trial => (c.handle trial.2 (world.under trial.1)).2) world

theorem knows_endure {start : World κ} (hstart : Reliable start.store.keeper)
    (h : c.script.Knows (c.stored start.store)) (trials : List (List Operation × Event)) :
    Reliable (c.endure trials start).store.keeper ∧
      c.script.Knows (c.stored (c.endure trials start).store) := by
  induction trials generalizing start with
  | nil => exact ⟨hstart, h⟩
  | cons trial trials ih =>
      have hreliable : Reliable (start.under trial.1).store.keeper := hstart
      exact ih (reliable_handle hreliable trial.2) (knows_handle hreliable h trial.2)

/-- With no failures on the way, all is as usual. -/
theorem endure_of_calm {start : World κ} (hstart : start.store.broken = [])
    {trials : List (List Operation × Event)} (hcalm : ∀ trial ∈ trials, trial.1 = []) :
    c.endure trials start = c.run (trials.map (·.2)) start := by
  induction trials generalizing start with
  | nil => rfl
  | cons trial trials ih =>
      have hunder : start.under trial.1 = start := by
        rw [hcalm trial List.mem_cons_self]
        obtain ⟨⟨keeper, snapshot, broken⟩, picker, log⟩ := start
        obtain rfl : broken = [] := hstart
        rfl
      obtain ⟨effects, hsteps⟩ := reaches_handle (c := c) trial.2 start
      have hnext : (c.handle trial.2 start).2.store.broken = [] := hsteps.broken.trans hstart
      have hrest := ih hnext fun later hlater => hcalm later (List.mem_cons_of_mem trial hlater)
      simp only [endure, run, List.foldl_cons, List.map_cons, hunder] at hrest ⊢
      exact hrest

omit [Keeper κ] in
theorem pending?_of_stands (hlegible : c.script.Legible) {form : Form} {position : Nat}
    (hstands : c.Stands store (.inside form position answers)) {input : Input}
    (hpending : c.pending? store = some input) : form.inputs[position]? = some input := by
  obtain ⟨hform, ⟨own, hown, hpointer⟩, _⟩ := hstands
  have hvalue : store.snapshot.value c.keys.pointer = own.path := by
    rw [Session.Snapshot.value, hpointer, Option.getD_some]
  obtain ⟨_, hfound⟩ := input?_of_pending? hpending
  rw [hvalue, hlegible.paths.input?_eq (Script.mem_of_form? hform).1 hown] at hfound
  rw [hown, hfound]

omit [Keeper κ] in
theorem tellsApart_held (hlegible : c.script.Legible) {standing : Standing}
    (hstands : c.Stands store standing) (hanswered : standing.Answered)
    {answer? : Option (Input × String)}
    (hpending : ∀ input value, answer? = some (input, value) → c.pending? store = some input) :
    c.script.TellsApart (c.held answer? store) := by
  cases standing with
  | outside =>
      cases answer? with
      | none =>
          have hstored : c.held none store = ∅ := by
            simp [held, stored, Session.Snapshot.hash, hstands.2]
          intro path hpath
          rw [hstored] at hpath
          cases hpath
      | some answer =>
          obtain ⟨hpointer, _⟩ := input?_of_pending? (hpending answer.1 answer.2 rfl)
          rw [Session.Snapshot.value, hstands.1] at hpointer
          exact absurd rfl hpointer
  | inside form position answers =>
      have hform := (Script.mem_of_form? hstands.1).1
      have hstored : c.stored store = answers := hstands.2.2
      have hbelow : form.AnswersBelow answers position := hanswered
      cases answer? with
      | none =>
          rw [held, hstored]
          exact Script.tellsApart_of_below hlegible hform hbelow
      | some answer =>
          obtain ⟨input, value⟩ := answer
          have hinput := pending?_of_stands hlegible hstands (hpending input value rfl)
          simp only [held, hstored]
          split
          · exact Script.tellsApart_of_below hlegible hform hbelow
          · exact Script.tellsApart_of_below hlegible hform (hbelow.insert hinput value)

/-- A session that has had no bad times can tell its answers apart, with the one that comes in. -/
theorem tellsApart_of_calm (hlegible : c.script.Legible) {start : World κ}
    (hstore : start.store.Healthy) (hempty : start.store.snapshot = ∅)
    {trials : List (List Operation × Event)} (hcalm : ∀ trial ∈ trials, trial.1 = [])
    (failing : List Operation) (event : Event) :
    let store := ((c.endure trials start).under failing).store
    c.script.TellsApart (c.held (c.accepted? event store) store) := by
  obtain ⟨_, standing, hstands, _, hanswered⟩ :=
    exists_standing_run hlegible hstore hempty (P := fun _ standing => standing.Answered) trivial
      (fun _ _ _ _ _ _ _ _ hanswered hmove => hmove.answered hanswered) (trials.map (·.2))
  rw [← endure_of_calm hstore.intact hcalm] at hstands
  intro store
  have hunder : c.Stands store standing := hstands
  exact tellsApart_held hlegible hunder hanswered fun _ _ => pending?_of_accepted?

/-- The field in which an answer is delivered. -/
def field? (c : Conversation) (answer : String × String) : Option (String × String) :=
  (c.script.input? answer.1).map fun input => (input.id, answer.2)

omit [Keeper κ] in
theorem fields_eq (answers : Dict String) :
    c.fields answers = .ofList (answers.entries.filterMap c.field?) := rfl

/-- Under the local identifier of its input, an answer is delivered, or another in its place. -/
theorem exists_get?_fields {path value : String} {input : Input}
    (hanswer : answers.get? path = some value) (hinput : c.script.input? path = some input) :
    (c.fields answers).get? input.id = some value ∨
      ∃ other rival, other ≠ path ∧ c.script.input? other = some rival ∧ rival.id = input.id ∧
        ∃ last, answers.get? other = some last ∧ (c.fields answers).get? input.id = some last := by
  have hfield : c.field? (path, value) = some (input.id, value) := by simp [field?, hinput]
  have hentry := List.mem_filterMap.mpr ⟨(path, value), Dict.get?_eq_some_iff.mp hanswer, hfield⟩
  obtain ⟨last, hlast, hmem⟩ := Dict.exists_get?_ofList hentry
  rw [fields_eq]
  obtain ⟨⟨other, last⟩, hother, hfound⟩ := List.mem_filterMap.mp hmem
  obtain ⟨rival, hrival, hpair⟩ := Option.map_eq_some_iff.mp hfound
  obtain ⟨hid, rfl⟩ := Prod.mk.inj hpair
  by_cases hsame : other = path
  · subst hsame
    rw [Dict.get?_eq_some_iff.mpr hother] at hanswer
    exact .inl (hlast.trans hanswer)
  · exact .inr ⟨other, rival, hsame, hrival, hid, last, Dict.get?_eq_some_iff.mpr hother, hlast⟩

theorem stays_or_submitted {event : Event} (hquiet : event.restarts = false)
    (hreliable : Reliable world.store.keeper) (hknows : c.script.Knows (c.stored world.store))
    {path value : String}
    (hheld : (c.held (c.accepted? event world.store) world.store).get? path = some value) :
    let after := (c.turn event world).2
    let submissions := (c.turn event world).1.submissions
    ∃ input, c.script.input? path = some input ∧
      ((c.stored after.store).get? path = some value ∨
        (∃ submission ∈ submissions, submission.fields.get? input.id = some value) ∨
        (.getHash ∈ world.store.broken ∧ ∃ submission ∈ submissions, submission.fields = ∅) ∨
        ∃ other rival, other ≠ path ∧ c.script.input? other = some rival ∧
          rival.id = input.id ∧
          ∃ last, (c.held (c.accepted? event world.store) world.store).get? other = some last ∧
            ∃ submission ∈ submissions, submission.fields.get? input.id = some last) := by
  intro after submissions
  have hcomes := handle_comes_of_quiet (c := c) hquiet world
  have hknown := knows_held hknows hcomes.pending
  obtain ⟨input, hinput⟩ := hknown path (Dict.mem_keys_of_get? hheld)
  refine ⟨input, hinput, ?_⟩
  obtain ⟨effects, hsteps, hstay | ⟨_, reached, hdelivered⟩⟩ := hcomes.handsOver hreliable
  · left
    rw [← hstay] at hheld
    exact hheld
  right
  have hsubmissions : submissions = delivered effects := hsteps.delivered_drop
  rw [← hsubmissions] at hdelivered
  by_cases hunread : .getHash ∈ world.store.broken
  · rw [readable, if_pos hunread] at hdelivered
    exact .inr (.inl ⟨hunread, _, hdelivered, rfl⟩)
  · rw [readable, if_neg hunread] at hdelivered
    rcases exists_get?_fields hheld hinput with hown |
      ⟨other, rival, hne, hrival, hid, last, hlast, hget⟩
    · exact .inl ⟨_, hdelivered, hown⟩
    · exact .inr (.inr ⟨other, rival, hne, hrival, hid, last, hlast, _, hdelivered, hget⟩)

/-- Whatever fails, the answers of a session that does not start over, with the one that it accepts
and can store, stay in the store or are submitted.  The exceptions are that none of them can be
read, so that a submission without fields is delivered, and that, after failures during earlier
events, the answer to an input with the same local identifier is submitted instead. -/
theorem stored_or_submitted {source fallbackId : String}
    (hcompiled : Script.compile source fallbackId = .ok c.script)
    (hpaths : c.script.DistinctPaths) (start : World κ) (hstore : start.store.Healthy)
    (hempty : start.store.snapshot = ∅) (trials : List (List Operation × Event))
    (failing : List Operation) (event : Event) (hquiet : event.restarts = false) :
    let world := (c.endure trials start).under failing
    let held := c.held (c.accepted? event world.store) world.store
    let after := (c.turn event world).2
    let submissions := (c.turn event world).1.submissions
    ∀ path value, held.get? path = some value → ∃ input, c.script.input? path = some input ∧
      ((c.stored after.store).get? path = some value ∨
        (∃ submission ∈ submissions, submission.fields.get? input.id = some value) ∨
        (.getHash ∈ failing ∧ ∃ submission ∈ submissions, submission.fields = ∅) ∨
        ((∃ trial ∈ trials, trial.1 ≠ []) ∧
          ∃ other rival, other ≠ path ∧ c.script.input? other = some rival ∧
            rival.id = input.id ∧ ∃ last, held.get? other = some last ∧
              ∃ submission ∈ submissions, submission.fields.get? input.id = some last)) := by
  intro world held after submissions path value hheld
  have hlegible : c.script.Legible := ⟨hpaths, Script.compile_inputsNamed hcompiled⟩
  have hstart : c.script.Knows (c.stored start.store) := by
    rw [stored, hempty]
    exact c.script.knows_empty
  obtain ⟨hreliable, hknows⟩ : Reliable world.store.keeper ∧
      c.script.Knows (c.stored world.store) := knows_endure hstore.reliable hstart trials
  obtain ⟨input, hinput, hkept⟩ := stays_or_submitted hquiet hreliable hknows hheld
  refine ⟨input, hinput, hkept.imp_right (Or.imp_right (Or.imp_right fun hinstead => ?_))⟩
  obtain ⟨other, rival, hne, hrival, hid, last, hlast, hsubmitted⟩ := hinstead
  refine ⟨?_, other, rival, hne, hrival, hid, last, hlast, hsubmitted⟩
  by_contra hcalm
  simp only [not_exists, not_and, not_not] at hcalm
  have hapart := tellsApart_of_calm hlegible hstore hempty hcalm failing event
  exact hne (hapart path (Dict.mem_keys_of_get? hheld) other (Dict.mem_keys_of_get? hlast)
    input rival hinput hrival hid)

def ticketTrials : List (List Operation × Event) := ticketEvents.map fun event => ([], event)

theorem stored_or_submitted_ticket :
    let world := (ticketTalk.endure ticketTrials ticketStart).under [.set, .deleteHash]
    let held := ticketTalk.held (ticketTalk.accepted? (.message "x" []) world.store) world.store
    let after := (ticketTalk.turn (.message "x" []) world).2
    let submissions := (ticketTalk.turn (.message "x" []) world).1.submissions
    ∀ path value, held.get? path = some value →
      ∃ input, ticketTalk.script.input? path = some input ∧
        ((ticketTalk.stored after.store).get? path = some value ∨
          (∃ submission ∈ submissions, submission.fields.get? input.id = some value) ∨
          (Operation.getHash ∈ [Operation.set, .deleteHash] ∧
            ∃ submission ∈ submissions, submission.fields = ∅) ∨
          ((∃ trial ∈ ticketTrials, trial.1 ≠ []) ∧
            ∃ other rival, other ≠ path ∧ ticketTalk.script.input? other = some rival ∧
              rival.id = input.id ∧ ∃ last, held.get? other = some last ∧
                ∃ submission ∈ submissions, submission.fields.get? input.id = some last)) :=
  stored_or_submitted (c := ticketTalk) Script.compile_ticketSource (by decide) ticketStart
    Session.Store.healthy_inMemory rfl ticketTrials [.set, .deleteHash] (.message "x" []) rfl

/-- Two forms whose first inputs have the same local identifier. -/
def twinSource : String :=
  "<html><body><nav id=\"main\"/><form id=\"f\" action=\"http://a/\"><input id=\"a\"/>" ++
    "<input id=\"b\"/></form><form id=\"g\" action=\"http://b/\"><input id=\"a\"/></form>" ++
    "</body></html>"

def twinInput (scope id : String) : Input :=
  ⟨scope, inputPath scope id, id, "please write the required data", .text, [], "", none⟩

def twinTalk : Conversation where
  engine.script :=
    { Script.ticketScript with
      forms := [
        ⟨"f", "please follow the next steps", "Thank you", "http://a/", "post",
          [twinInput "f" "a", twinInput "f" "b"]⟩,
        ⟨"g", "please follow the next steps", "Thank you", "http://b/", "post",
          [twinInput "g" "a"]⟩] }
  engine.composer := fun _ => .error .request
  session := "s"

theorem compile_twinSource : Script.compile twinSource "bot" = .ok twinTalk.script := by
  decide +kernel

/-- An answer that cannot be stored is lost, although the form moves on, and so are answers that
cannot be read when they are due, and one that shares its local identifier with another, once the
session has come into two forms because its pointer could not be read. -/
theorem answers_lost :
    (Script.compile Script.ticketSource "bot" = .ok ticketTalk.script ∧
      ticketTalk.script.DistinctPaths ∧
      (let world := ticketTalk.endure [([], .postback "form://f")] ticketStart
        let (turn, after) := ticketTalk.turn (.message "1" []) (world.under [.setHash])
        (ticketTalk.accepted? (.message "1" []) world.store).map (·.map Input.path id) =
            some ("f/a", "1") ∧
          world.store.snapshot.value ticketTalk.keys.pointer = "f/a" ∧
          after.store.snapshot.value ticketTalk.keys.pointer = "" ∧
          (ticketTalk.stored after.store).get? "f/a" = none ∧
          turn.submissions = [⟨"s", "f", "http://a/", ∅⟩]) ∧
      let world := ticketTalk.endure ticketTrials ticketStart
      let (turn, after) := ticketTalk.turn (.message "x" []) (world.under [.getHash])
      (ticketTalk.stored world.store).get? "f/a" = some "1" ∧
        (ticketTalk.stored after.store).get? "f/a" = none ∧
        turn.submissions = [⟨"s", "f", "http://a/", ∅⟩]) ∧
    (Script.compile twinSource "bot" = .ok twinTalk.script ∧ twinTalk.script.DistinctPaths ∧
      let world := twinTalk.endure
        [([], .postback "form://f"), ([], .message "1" []), ([.get], .postback "form://g")]
        ticketStart
      let (turn, after) := twinTalk.turn (.message "2" []) (world.under [])
      (twinTalk.stored world.store).get? "f/a" = some "1" ∧
        (twinTalk.stored after.store).get? "f/a" = none ∧
        turn.submissions = [⟨"s", "f", "http://a/", .ofList [("a", "2")]⟩]) := by
  refine ⟨⟨Script.compile_ticketSource, by decide, ?_, ?_⟩, compile_twinSource, by decide, ?_⟩
  · decide +kernel
  · decide +kernel
  · decide +kernel

end Conversation

end Colloquy
