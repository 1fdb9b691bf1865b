import Colloquy.Proofs.Dialogue.Reading
import Colloquy.Proofs.Dialogue.Steps

/-!
Two stores in which a session stands at the same place, whatever else they hold and wherever they
are kept.  An event then has the same effects in both, as long as no change is lost.
-/

namespace Colloquy

open Session (Keeper Store Write)

/-- No template leaves a choice between replies. -/
def Script.SingleReplies (script : Script) : Prop :=
  ∀ template ∈ script.templates, template.replies.length ≤ 1

namespace Conversation

variable {κ ι : Type} [Keeper ι] {c : Conversation}

/-- The session has the same entries in both stores; the second store never fails. -/
structure Alike (c : Conversation) (first : Store κ) (second : Store ι) : Prop where
  intact : first.broken = []
  healthy : second.Healthy
  pointer : first.snapshot.values.get? c.keys.pointer =
    second.snapshot.values.get? c.keys.pointer
  answers : first.snapshot.hashes.get? c.keys.answers =
    second.snapshot.hashes.get? c.keys.answers

namespace Alike

variable {first : Store κ} {second : Store ι}

theorem hash_eq (h : Alike c first second) :
    first.snapshot.hash c.keys.answers = second.snapshot.hash c.keys.answers := by
  rw [Session.Snapshot.hash, Session.Snapshot.hash, h.answers]

theorem pending?_eq (h : Alike c first second) :
    c.pending? first = c.pending? second := by
  have hvalue : first.snapshot.value c.keys.pointer =
      second.snapshot.value c.keys.pointer := by
    rw [Session.Snapshot.value, Session.Snapshot.value, h.pointer]
  rw [pending?_of_intact h.intact, pending?_of_intact h.healthy.intact, hvalue]

theorem next?_eq (h : Alike c first second) : c.next? first = c.next? second := by
  rw [next?, next?, h.pending?_eq]

theorem answers_eq (h : Alike c first second) :
    c.answers first = c.answers second := by
  rw [answers_of_intact h.intact, answers_of_intact h.healthy.intact, h.hash_eq]

theorem isVisible_eq (h : Alike c first second) (input : Input) :
    c.isVisible input first = c.isVisible input second := by
  rw [isVisible_of_intact h.intact, isVisible_of_intact h.healthy.intact, h.hash_eq]

end Alike

end Conversation

namespace Effect

open Session (Snapshot)

theorem values_replay_congr {first second : Snapshot} {key : String}
    (h : first.values.get? key = second.values.get? key) (effect : Effect) :
    (replay first effect).values.get? key = (replay second effect).values.get? key := by
  cases effect with
  | write change kept => cases kept <;> cases change <;> simp [replay, Write.apply, h]
  | deliver submission => exact h
  | ask url => exact h

theorem hashes_replay_congr {first second : Snapshot} {key : String}
    (h : first.hashes.get? key = second.hashes.get? key) (effect : Effect) :
    (replay first effect).hashes.get? key = (replay second effect).hashes.get? key := by
  cases effect with
  | write change kept =>
      cases kept with
      | false => exact h
      | true =>
          cases change with
          | setHash other field value =>
              by_cases hother : other = key
              · subst hother
                simp [replay, Write.apply, Snapshot.hash, h]
              · simp [replay, Write.apply, hother, h]
          | set other value => exact h
          | delete other => exact h
          | deleteHash other => simp [replay, Write.apply, h]
  | deliver submission => exact h
  | ask url => exact h

theorem values_foldl_replay_congr {first second : Snapshot} {key : String}
    (h : first.values.get? key = second.values.get? key) (effects : List Effect) :
    (effects.foldl replay first).values.get? key =
      (effects.foldl replay second).values.get? key := by
  induction effects generalizing first second with
  | nil => exact h
  | cons effect effects ih => exact ih (values_replay_congr h effect)

theorem hashes_foldl_replay_congr {first second : Snapshot} {key : String}
    (h : first.hashes.get? key = second.hashes.get? key) (effects : List Effect) :
    (effects.foldl replay first).hashes.get? key =
      (effects.foldl replay second).hashes.get? key := by
  induction effects generalizing first second with
  | nil => exact h
  | cons effect effects ih => exact ih (hashes_replay_congr h effect)

end Effect

namespace Conversation

variable {κ ι : Type} [Keeper κ] [Keeper ι] {c : Conversation}

/-- From two worlds, the same effects lead to two results with the same messages, unless a change is
lost on the first way. -/
def InStep (c : Conversation) (first : World κ) (second : World ι)
    (result : List Message × World κ) (other : List Message × World ι) : Prop :=
  ∃ effects, Steps c first effects result.2 ∧
    (Failed effects ∨ Steps c second effects other.2 ∧ result.1 = other.1)

/-- The same, but for messages that may be told apart by a choice between replies. -/
def Parallel (c : Conversation) (first : World κ) (second : World ι)
    (result : List Message × World κ) (other : List Message × World ι) : Prop :=
  ∃ effects, Steps c first effects result.2 ∧
    (Failed effects ∨
      Steps c second effects other.2 ∧ (c.script.SingleReplies → result.1 = other.1))

section

variable {first : World κ} {second : World ι} {result : List Message × World κ}
  {other : List Message × World ι}

theorem Alike.after (h : Alike c first.store second.store) {effects : List Effect} {last : World κ}
    {otherLast : World ι} (hfirst : Steps c first effects last)
    (hsecond : Steps c second effects otherLast) : Alike c last.store otherLast.store := by
  refine ⟨by rw [hfirst.broken, h.intact], hsecond.healthy h.healthy, ?_, ?_⟩
  · rw [hfirst.snapshot, hsecond.snapshot]
    exact Effect.values_foldl_replay_congr h.pointer effects
  · rw [hfirst.snapshot, hsecond.snapshot]
    exact Effect.hashes_foldl_replay_congr h.answers effects

namespace InStep

theorem refl (first : World κ) (second : World ι) (messages : List Message) :
    InStep c first second (messages, first) (messages, second) :=
  ⟨[], .refl first, .inr ⟨.refl second, rfl⟩⟩

theorem deliver (submission : Submission) (own : submission.session = c.session)
    (hafter : InStep c (first.note (.deliver submission))
      (second.note (.deliver submission)) result other) :
    InStep c first second result other := by
  obtain ⟨effects, hsteps, hrest⟩ := hafter
  refine ⟨_, .deliver own hsteps, ?_⟩
  rcases hrest with hfailed | ⟨hother, hmessages⟩
  · exact .inl (hfailed.cons _)
  · exact .inr ⟨.deliver own hother, hmessages⟩

theorem prepend (message : Message) (h : InStep c first second result other) :
    InStep c first second (message :: result.1, result.2) (message :: other.1, other.2) := by
  obtain ⟨effects, hsteps, hrest⟩ := h
  refine ⟨effects, hsteps, hrest.imp_right fun ⟨hother, hmessages⟩ => ⟨hother, ?_⟩⟩
  exact congrArg (message :: ·) hmessages

theorem parallel (h : InStep c first second result other) :
    Parallel c first second result other := by
  obtain ⟨effects, hsteps, hrest⟩ := h
  exact ⟨effects, hsteps, hrest.imp_right fun ⟨hother, hmessages⟩ => ⟨hother, fun _ => hmessages⟩⟩

end InStep

namespace Alike

theorem write (h : Alike c first.store second.store) {change : Write}
    (hkept : (first.write change).1 = true) :
    Alike c (first.write change).2.store (second.write change).2.store := by
  have hsecond := World.write_of_healthy h.healthy change
  refine ⟨by rw [World.store_write, Store.broken_write, h.intact], h.healthy.write change,
    ?_, ?_⟩
  · rw [World.snapshot_write, World.snapshot_write, hkept, hsecond]
    exact Effect.values_replay_congr h.pointer _
  · rw [World.snapshot_write, World.snapshot_write, hkept, hsecond]
    exact Effect.hashes_replay_congr h.answers _

theorem inStep_write (h : Alike c first.store second.store) (change : Write)
    (own : change.Concerns c.keys) (hreaches : c.Reaches (first.write change).2 result.2)
    (hafter : (first.write change).1 = true →
      Alike c (first.write change).2.store (second.write change).2.store →
      InStep c (first.write change).2 (second.write change).2 result other) :
    InStep c first second result other := by
  cases hkept : (first.write change).1 with
  | false =>
      obtain ⟨effects, hsteps⟩ := hreaches
      refine ⟨_, .write change own hsteps, .inl ⟨_, List.mem_cons_self, ?_⟩⟩
      rw [hkept]
      rfl
  | true =>
      obtain ⟨effects, hsteps, hrest⟩ := hafter hkept (h.write hkept)
      refine ⟨_, .write change own hsteps, ?_⟩
      rcases hrest with hfailed | ⟨hother, hmessages⟩
      · exact .inl (hfailed.cons _)
      · refine .inr ⟨?_, hmessages⟩
        rw [hkept, ← World.write_of_healthy h.healthy change]
        exact .write change own hother

theorem inStep_advance (h : Alike c first.store second.store) (path : String)
    (hreaches : c.Reaches (c.advance path first).2 result.2)
    (hafter : (c.advance path first).1 = true → (c.advance path second).1 = true →
      Alike c (c.advance path first).2.store (c.advance path second).2.store →
      InStep c (c.advance path first).2 (c.advance path second).2 result other) :
    InStep c first second result other := by
  refine h.inStep_write
    (if path = "" then .delete c.keys.pointer else .set c.keys.pointer path) ?_ hreaches
    fun hkept => hafter hkept (World.write_of_healthy h.healthy _)
  split <;> rfl

theorem inStep_finalize (h : Alike c first.store second.store) (messages : List Message)
    (reached : Form) :
    InStep c first second (messages, c.finalize reached first)
      (messages, c.finalize reached second) := by
  unfold finalize
  rw [h.answers_eq]
  have hnoted : Alike c
      (first.note (.deliver (c.submission (c.answers second.store) reached))).store
      (second.note (.deliver (c.submission (c.answers second.store) reached))).store := h
  apply InStep.deliver (c.submission (c.answers second.store) reached) rfl
  apply hnoted.inStep_write (.deleteHash c.keys.answers) rfl
  · exact .advance _ (.refl _)
  · intro _ hcleared
    apply hcleared.inStep_advance ""
    · exact .refl _
    · exact fun _ _ _ => .refl _ _ messages

theorem inStep_complete (h : Alike c first.store second.store) (last : Input) :
    InStep c first second (c.complete last first) (c.complete last second) := by
  unfold complete
  split
  · exact h.inStep_finalize _ _
  · exact .refl _ _ _

theorem inStep_presentFrom (h : Alike c first.store second.store) (current : Input) :
    InStep c first second (c.presentFrom current first) (c.presentFrom current second) := by
  -- The recursion is that of the first side; the second one takes the same branches.
  fun_induction c.presentFrom current first generalizing second with
  | case1 current first hvisible =>
      rw [h.isVisible_eq] at hvisible
      rw [presentFrom_of_visible hvisible]
      exact .refl _ _ _
  | case2 current first hhidden hnext =>
      rw [h.isVisible_eq] at hhidden
      rw [h.next?_eq] at hnext
      rw [presentFrom_of_hidden hhidden, proceed_of_none hnext]
      exact h.inStep_complete current
  | case3 current first hhidden next hnext hkept ih =>
      rw [h.isVisible_eq] at hhidden
      rw [h.next?_eq] at hnext
      apply h.inStep_advance next.path (reaches_presentFrom _ _)
      intro _ hsecond hadvanced
      rw [presentFrom_of_hidden hhidden, proceed_of_kept hnext hsecond]
      exact ih hadvanced
  | case4 current first hhidden next hnext hlost =>
      exact h.inStep_advance next.path (.refl _) fun hkept => absurd hkept hlost

theorem inStep_proceed (h : Alike c first.store second.store) (input : Input) :
    InStep c first second (c.proceed input first) (c.proceed input second) := by
  cases hnext : c.next? first.store with
  | none =>
      rw [proceed_of_none hnext, proceed_of_none (h.next?_eq ▸ hnext)]
      exact h.inStep_complete input
  | some next =>
      refine h.inStep_advance next.path ?_ fun hfirst hsecond hadvanced => ?_
      · by_cases hkept : (c.advance next.path first).1 = true
        · rw [proceed_of_kept hnext hkept]
          exact reaches_presentFrom next _
        · rw [proceed_of_lost hnext hkept]
          exact .refl _
      · rw [proceed_of_kept hnext hfirst, proceed_of_kept (h.next?_eq ▸ hnext) hsecond]
        exact hadvanced.inStep_presentFrom next

theorem inStep_presentForm (h : Alike c first.store second.store) (form : Form) :
    InStep c first second (c.presentForm form first) (c.presentForm form second) := by
  unfold presentForm
  rw [h.pending?_eq]
  cases form.firstInput? with
  | none => exact .refl _ _ _
  | some input =>
      cases c.pending? second.store with
      | some pending => exact (h.inStep_presentFrom pending).prepend _
      | none =>
          dsimp only
          refine h.inStep_advance input.path ?_ fun hfirst hsecond hadvanced => ?_
          · split
            · exact reaches_presentFrom _ _
            · exact .refl _
          · rw [if_pos hfirst, if_pos hsecond]
            exact (hadvanced.inStep_presentFrom input).prepend _

theorem inStep_answer (h : Alike c first.store second.store) (input : Input) (value : String) :
    InStep c first second (c.answer input value first) (c.answer input value second) := by
  apply h.inStep_write (.setHash c.keys.answers input.path value) rfl
  · exact reaches_proceed input (c.record input.path value first).2
  · exact fun _ hrecorded => hrecorded.inStep_proceed input

theorem inStep_reset (h : Alike c first.store second.store)
    (hreaches : c.Reaches (c.reset first).2 result.2)
    (hafter : Alike c (c.reset first).2.store (c.reset second).2.store →
      InStep c (c.reset first).2 (c.reset second).2 result other) :
    InStep c first second result other := by
  apply h.inStep_write (.deleteHash c.keys.answers) rfl
  · exact Reaches.advance "" hreaches
  · intro _ hcleared
    exact hcleared.inStep_advance "" hreaches fun _ _ => hafter

theorem inStep_handleOption (h : Alike c first.store second.store) (token : Routing.Token) :
    InStep c first second (c.handleOption token first) (c.handleOption token second) := by
  unfold handleOption
  rw [h.pending?_eq]
  split
  · exact .refl _ _ _
  · split
    · split
      · exact .refl _ _ _
      · split
        · exact h.inStep_answer _ _
        · exact .refl _ _ _
    · exact .refl _ _ _
    · exact .refl _ _ _
    · exact .refl _ _ _

theorem inStep_follow (h : Alike c first.store second.store) (token : Routing.Token) :
    InStep c first second (c.follow token first) (c.follow token second) := by
  unfold follow
  split
  · split <;> exact .refl _ _ _
  · split
    · exact h.inStep_presentForm _
    · exact .refl _ _ _
  · exact h.inStep_handleOption token
  · exact .refl _ _ _

theorem inStep_handlePostback (h : Alike c first.store second.store) (payload : String) :
    InStep c first second (c.handlePostback payload first)
      (c.handlePostback payload second) := by
  unfold handlePostback
  split
  · exact .refl _ _ _
  · split
    · exact .refl _ _ _
    · next token _ =>
      by_cases hreset : token.requestsReset = true
      · rw [if_pos hreset, if_pos hreset]
        apply h.inStep_reset (reaches_follow token _)
        exact fun hcleared => hcleared.inStep_follow token
      · rw [if_neg hreset, if_neg hreset]
        exact h.inStep_follow token

theorem parallel_reply (first : World κ) (second : World ι) (content : String) :
    Parallel c first second (c.engine.reply content first) (c.engine.reply content second) := by
  unfold Engine.reply
  split
  · next template htemplate =>
    refine ⟨[], .stay first _, .inr ⟨.stay second _, fun hsingle => ?_⟩⟩
    have hone := hsingle template (List.mem_of_find?_eq_some htemplate)
    simp [Engine.replyFrom, Picker.pick_of_le_one hone]
  · split
    · exact ⟨_, .ask (.refl _), .inr ⟨.ask (.refl _), fun _ => rfl⟩⟩
    · exact (InStep.refl _ _ _).parallel

theorem parallel_handleMessage (h : Alike c first.store second.store) (content : String)
    (attachments : List String) :
    Parallel c first second (c.handleMessage content attachments first)
      (c.handleMessage content attachments second) := by
  unfold handleMessage
  rw [h.pending?_eq]
  cases c.pending? second.store with
  | none => exact parallel_reply first second content
  | some pending =>
      cases hkind : pending.kind with
      | text => simpa [hkind] using (h.inStep_answer pending content).parallel
      | file =>
          cases attachments with
          | nil => simpa [hkind] using (InStep.refl _ _ _).parallel
          | cons url others => simpa [hkind] using (h.inStep_answer pending url).parallel
      | options => simpa [hkind] using (InStep.refl _ _ _).parallel
      | other name => simpa [hkind] using (InStep.refl _ _ _).parallel

/-- An event has the same effects in alike worlds, and the same messages are said if no template
leaves a choice. -/
theorem parallel_handle (h : Alike c first.store second.store) (event : Event) :
    Parallel c first second (c.handle event first) (c.handle event second) := by
  cases event with
  | optIn => exact (InStep.refl _ _ _).parallel
  | message content attachments => exact h.parallel_handleMessage content attachments
  | postback payload => exact (h.inStep_handlePostback payload).parallel

end Alike

end

end Conversation

end Colloquy
