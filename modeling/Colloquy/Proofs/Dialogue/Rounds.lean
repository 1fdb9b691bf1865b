import Colloquy.Proofs.Dialogue.Dispatch
import Colloquy.Proofs.Dialogue.Picking
import Colloquy.Proofs.Script.Ascent

/-!
Handling an event ends, whatever the store holds and whichever of its operations fail.  The pointer
is read again in every round of the loop that passes hidden inputs over, so what makes the loop end
is the rank at which the path in the store was declared last: every move of the pointer raises it.
-/

namespace Colloquy

open Session (Keeper Store Write)

/-- The path to which the pointer is to be moved; the store may refuse it. -/
def Effect.move? : Effect → Option String
  | .write (.set _ path) _ => some path
  | _ => none

def moves (effects : List Effect) : List String := effects.filterMap Effect.move?

namespace Conversation

variable {κ : Type} {c : Conversation}

/-- The ranks from which the pointer can still be moved on to an input.  A pointer that leads to no
input, or that cannot be read, is not moved any more. -/
def floor (c : Conversation) (store : Store κ) : Nat :=
  match (store.get c.keys.pointer).toOption.bind c.script.rank? with
  | some rank => rank + 1
  | none => c.script.entries.length

theorem rank?_of_next? {store : Store κ} {next : Input} (h : c.next? store = some next) :
    ∃ rank, c.script.rank? next.path = some rank ∧ c.floor store ≤ rank := by
  obtain ⟨path, rank, hget, hrank, hafter⟩ := rank_of_next? h
  obtain ⟨later, hlater, hlt⟩ := Script.rank?_inputAfter hafter
  refine ⟨later, hlater, ?_⟩
  simp only [floor, hget, Except.toOption, Option.bind_some, hrank]
  exact hlt

theorem floor_of_pending? {store : Store κ} {pending : Input}
    (h : c.pending? store = some pending) :
    ∃ rank, c.script.rank? pending.path = some rank ∧ c.floor store = rank + 1 := by
  unfold pending? at h
  split at h
  · next path hget =>
    split at h
    · cases h
    · rw [Script.path_input? h]
      obtain ⟨rank, hrank, _⟩ := Option.bind_eq_some_iff.mp h
      exact ⟨rank, hrank, by simp [floor, hget, Except.toOption, hrank]⟩
  · cases h

variable [Keeper κ] {world after : World κ} {start rank : Nat} {path : String}

theorem lt_floor_advance (hrank : c.script.rank? path = some rank)
    (hkept : (c.advance path world).1 = true) :
    rank < c.floor (c.advance path world).2.store := by
  cases hget : world.store.get c.keys.pointer with
  | ok before => simp [floor, get_advance hget hkept, Except.toOption, hrank]
  | error fault =>
      have hbroken : (c.advance path world).2.store.broken = world.store.broken := by
        simp [advance]
      have hafter : (c.advance path world).2.store.get c.keys.pointer = .error fault := by
        unfold Store.get Store.read at hget ⊢
        rw [hbroken]
        split
        · next hread => simpa [hread, Except.map] using hget
        · next hread => simp [hread, Except.map] at hget
      simpa [floor, hafter, Except.toOption] using Script.rank?_lt hrank

/-- The session brings about effects that move the pointer from rank to rank, from `start` on. -/
def Climbs (c : Conversation) (start : Nat) (world after : World κ) : Prop :=
  ∃ effects, Steps c world effects after ∧ c.script.Ascends start (moves effects)

namespace Climbs

theorem refl (world : World κ) : c.Climbs start world world := ⟨[], .refl world, .done⟩

theorem mono {earlier : Nat} (h : c.Climbs start world after) (hle : earlier ≤ start) :
    c.Climbs earlier world after := by
  obtain ⟨effects, hsteps, hascends⟩ := h
  exact ⟨effects, hsteps, hascends.mono hle⟩

theorem advance (hrank : c.script.rank? path = some rank) (hle : start ≤ rank)
    (rest : c.Climbs (rank + 1) (c.advance path world).2 after) :
    c.Climbs start world after := by
  obtain ⟨effects, hsteps, hascends⟩ := rest
  unfold Conversation.advance at hsteps
  split at hsteps
  · refine ⟨_, .write (.delete c.keys.pointer) rfl hsteps, ?_⟩
    exact hascends.mono (Nat.le_succ_of_le hle)
  · exact ⟨_, .write (.set c.keys.pointer path) rfl hsteps, .move hrank hle hascends⟩

/-- A change that moves no pointer does not matter. -/
theorem write (change : Write) (own : change.Concerns c.keys)
    (hstill : ∀ kept, Effect.move? (.write change kept) = none)
    (rest : c.Climbs start (world.write change).2 after) : c.Climbs start world after := by
  obtain ⟨effects, hsteps, hascends⟩ := rest
  refine ⟨_, .write change own hsteps, ?_⟩
  rw [moves, List.filterMap_cons, hstill]
  exact hascends

theorem reset (rest : c.Climbs start (c.reset world).2 after) : c.Climbs start world after := by
  apply Climbs.write (.deleteHash c.keys.answers) rfl fun _ => rfl
  exact .write (.delete c.keys.pointer) rfl (fun _ => rfl) rest

theorem deliver {answers : Dict String} {reached : Form}
    (rest : c.Climbs start (world.note (.deliver (c.submission answers reached))) after) :
    c.Climbs start world after := by
  obtain ⟨effects, hsteps, hascends⟩ := rest
  exact ⟨_, .deliver rfl hsteps, hascends⟩

end Climbs

theorem Idles.climbs (h : c.Idles world after) : c.Climbs start world after := by
  obtain ⟨_, effects, hsteps, hasks⟩ := h
  have hmoves : moves effects = [] := by
    refine List.filterMap_eq_nil_iff.mpr fun effect heffect => ?_
    obtain ⟨url, rfl⟩ := hasks effect heffect
    rfl
  exact ⟨effects, hsteps, hmoves ▸ .done⟩

theorem climbs_finalize (reached : Form) (world : World κ) :
    c.Climbs start world (c.finalize reached world) := by
  have hclosing : c.Climbs start
      (world.note (.deliver (c.submission (c.answers world.store) reached)))
      (c.finalize reached world) := .reset (.refl _)
  exact hclosing.deliver

theorem climbs_complete (last : Input) (world : World κ) :
    c.Climbs start world (c.complete last world).2 := by
  unfold complete
  split
  · exact climbs_finalize _ world
  · exact .refl world

/-- From wherever the pointer stands, it only moves on. -/
theorem climbs_presentFrom (current : Input) (world : World κ) :
    c.Climbs (c.floor world.store) world (c.presentFrom current world).2 := by
  fun_induction c.presentFrom current world with
  | case1 current world hvisible => exact .refl world
  | case2 current world hhidden hnext => exact climbs_complete current world
  | case3 current world hhidden next hnext hkept ih =>
      obtain ⟨rank, hrank, hle⟩ := rank?_of_next? hnext
      exact .advance hrank hle (ih.mono (lt_floor_advance hrank hkept))
  | case4 current world hhidden next hnext hlost =>
      obtain ⟨rank, hrank, hle⟩ := rank?_of_next? hnext
      exact .advance hrank hle (.refl _)

theorem climbs_proceed (input : Input) (world : World κ) :
    c.Climbs (c.floor world.store) world (c.proceed input world).2 := by
  unfold proceed
  split
  · exact climbs_complete input world
  · next next hnext =>
    obtain ⟨rank, hrank, hle⟩ := rank?_of_next? hnext
    apply Climbs.advance hrank hle
    split
    · next hkept => exact (climbs_presentFrom next _).mono (lt_floor_advance hrank hkept)
    · exact .refl _

theorem get_record (key value : String) (world : World κ) :
    (c.record path value world).2.store.get key = world.store.get key := by
  have hvalue : (c.record path value world).2.store.snapshot.value key =
      world.store.snapshot.value key := by
    rw [record, World.snapshot_write]
    cases (world.write (.setHash c.keys.answers path value)).1 <;> simp [Effect.replay]
  have hbroken : (c.record path value world).2.store.broken = world.store.broken := by
    simp [record]
  unfold Store.get Store.read
  rw [hbroken]
  split
  · rfl
  · exact congrArg Except.ok hvalue

/-- Where the next move can lead: behind the pending input, or anywhere if there is none. -/
def foot (c : Conversation) (store : Store κ) : Nat :=
  match c.pending? store with
  | some _ => c.floor store
  | none => 0

theorem climbs_answer {input : Input} (value : String)
    (hpending : c.pending? world.store = some input) :
    c.Climbs (c.foot world.store) world (c.answer input value world).2 := by
  rw [answer_eq_proceed]
  have hclimbs := climbs_proceed (c := c) input (c.record input.path value world).2
  simp only [floor, get_record] at hclimbs
  simp only [foot, hpending]
  exact .write (.setHash c.keys.answers input.path value) rfl (fun _ => rfl) hclimbs

theorem climbs_presentForm {form : Form} (hform : form ∈ c.script.forms) (world : World κ) :
    c.Climbs (c.foot world.store) world (c.presentForm form world).2 := by
  unfold presentForm foot
  cases hfirst : form.firstInput? with
  | none => exact .refl world
  | some first =>
      cases c.pending? world.store with
      | some pending => exact climbs_presentFrom pending world
      | none =>
          obtain ⟨base, hbase⟩ := Script.exists_rank_base hform
          have hinput : form.inputs[0]? = some first := by
            rw [← List.head?_eq_getElem?]
            exact hfirst
          obtain ⟨⟨place, hentry⟩, _⟩ := hbase 0 first hinput
          obtain ⟨rank, hrank, _⟩ := le_of_lastIndex?
            (p := fun entry : Place × Input => decide (entry.2.path = first.path))
            hentry (decide_eq_true rfl)
          apply Climbs.advance hrank (Nat.zero_le rank)
          dsimp only
          split
          · next hkept => exact (climbs_presentFrom first _).mono (lt_floor_advance hrank hkept)
          · exact .refl _

theorem Comes.climbs {answer? : Option (Input × String)} {result : List Message × World κ}
    (h : c.Comes world answer? result) : c.Climbs (c.foot world.store) world result.2 := by
  cases h with
  | answer value hpending => exact climbs_answer value hpending
  | present declared => exact climbs_presentForm (Script.mem_of_form? declared).1 world
  | idle idles => exact idles.climbs

theorem climbs_handle (event : Event) (world : World κ) :
    c.Climbs (c.foot (c.outset event world).store) world (c.handle event world).2 := by
  obtain ⟨answer?, _, hcomes⟩ := handle_comes (c := c) event world
  have hclimbs := hcomes.climbs
  generalize c.foot (c.outset event world).store = start at hclimbs
  unfold outset at hclimbs
  split at hclimbs
  · exact .reset hclimbs
  · exact hclimbs

/-!
The loop, round by round.
-/

/-- One round of the loop that passes hidden inputs over: its outcome, or where it goes on. -/
def round (c : Conversation) (current : Input) (world : World κ) :
    (List Message × World κ) ⊕ (Input × World κ) :=
  if c.isVisible current world.store then .inl (c.script.ask current, world)
  else
    match c.next? world.store with
    | none => .inl (c.complete current world)
    | some next =>
      let (kept, world) := c.advance next.path world
      if kept then .inr (next, world) else .inl (c.errorMessages, world)

/-- The outcome of the loop, if it comes within so many rounds. -/
def rounds (c : Conversation) : Nat → Input → World κ → Option (List Message × World κ)
  | 0, _, _ => none
  | limit + 1, current, world =>
    match c.round current world with
    | .inl outcome => some outcome
    | .inr (next, world) => c.rounds limit next world

/-- Every round but the last leaves fewer ranks above the pointer. -/
theorem rounds_of_lt {limit : Nat} (current : Input) (world : World κ)
    (hlimit : c.script.entries.length - c.floor world.store < limit) :
    c.rounds limit current world = some (c.presentFrom current world) := by
  induction limit generalizing current world with
  | zero => exact absurd hlimit (Nat.not_lt_zero _)
  | succ limit ih =>
      by_cases hvisible : c.isVisible current world.store = true
      · simp [rounds, round, presentFrom_of_visible hvisible, hvisible]
      · rw [presentFrom_of_hidden hvisible]
        cases hnext : c.next? world.store with
        | none => simp [rounds, round, hvisible, hnext, proceed_of_none hnext]
        | some next =>
            by_cases hkept : (c.advance next.path world).1 = true
            · obtain ⟨rank, hrank, hle⟩ := rank?_of_next? hnext
              have hfloor := lt_floor_advance hrank hkept
              have hlast := Script.rank?_lt hrank
              rw [proceed_of_kept hnext hkept, ← ih next _ (by omega)]
              simp [rounds, round, hvisible, hnext, hkept]
            · simp [rounds, round, hvisible, hnext, hkept, proceed_of_lost hnext hkept]

/-- Where the pending input was declared. -/
def pendingPlace? (c : Conversation) (store : Store κ) : Option Place :=
  (c.pending? store).bind fun pending => c.script.place? pending.path

/-- Handling an event ends: the loop over hidden inputs within one round more than the script has
inputs, and the search for a reply before all words have been drawn.  The pointer is moved from
place to place, always to a later one, so at most once to each input. -/
theorem handle_ends (c : Conversation) (event : Event) (world : World κ) :
    (∀ (current : Input) (world : World κ),
        c.rounds (c.script.entries.length + 1) current world =
          some (c.presentFrom current world)) ∧
      (∀ (count : Nat) (picker : Picker), 1 < count →
        Picker.Drawn (min count (Picker.words - 1)) picker (picker.pick count)) ∧
      ∃ effects places, (c.handle event world).2.log = world.log ++ effects ∧
        (moves effects).map c.script.place? = places.map some ∧
        ((c.pendingPlace? (c.outset event world).store).toList ++ places).Pairwise Place.Before ∧
        (moves effects).length ≤ c.script.entries.length := by
  refine ⟨fun current world => rounds_of_lt current world (by omega),
    fun count picker hcount => Picker.drawn_pick hcount picker, ?_⟩
  obtain ⟨effects, hsteps, hascends⟩ := climbs_handle (c := c) event world
  obtain ⟨places, hplaces, hpairwise, hbehind⟩ := hascends.exists_places
  have hlength := Nat.le_trans hascends.length_le (Nat.sub_le _ _)
  refine ⟨effects, places, hsteps.log, hplaces, ?_, hlength⟩
  unfold pendingPlace?
  cases hpending : c.pending? (c.outset event world).store with
  | none => exact hpairwise
  | some pending =>
      obtain ⟨rank, hrank, hfloor⟩ := floor_of_pending? hpending
      obtain ⟨entry, hentry, hplace⟩ := Script.place?_of_rank? hrank
      simp only [foot, hpending, hfloor] at hbehind
      simp only [Option.bind_some, hplace, Option.toList_some, List.singleton_append]
      refine List.pairwise_cons.mpr ⟨fun place hmem => ?_, hpairwise⟩
      exact hbehind place hmem rank (Nat.lt_succ_self rank) entry hentry

end Conversation

end Colloquy
