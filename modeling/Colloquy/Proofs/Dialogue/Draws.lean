import Colloquy.Proofs.Dialogue.Picking
import Mathlib.Data.List.Forall2

/-!
A search that may go on for ever, step by step: from every state of the picker it ends, after no
more candidates than there are words.  So every pick, at any point of a sequence of picks, is made
and lies inside its list.
-/

namespace Colloquy.Picker

section

variable {σ : Type} (next : σ → UInt32 × σ) (limit : Nat)

/-- The search for a candidate below the limit comes to an end, after so many draws. -/
inductive Search : σ → (draws : Nat) → (candidate : Nat) → σ → Prop where
  | found {state : σ} (h : (next state).1.toNat < limit) :
      Search state 1 (next state).1.toNat (next state).2
  | passed {state last : σ} {draws candidate : Nat} (h : limit ≤ (next state).1.toNat)
      (rest : Search (next state).2 draws candidate last) : Search state (draws + 1) candidate last

variable {next limit}

theorem search_of_skip {passed : Nat} {state : σ}
    (hfound : candidate next passed state < limit)
    (hearlier : ∀ earlier < passed, limit ≤ candidate next earlier state) :
    Search next limit state (passed + 1) (candidate next passed state)
      (next (skip next passed state)).2 := by
  induction passed generalizing state with
  | zero => exact .found hfound
  | succ passed ih =>
      refine .passed (hearlier 0 (Nat.succ_pos passed)) (ih hfound fun earlier hlt => ?_)
      exact hearlier (earlier + 1) (Nat.succ_lt_succ hlt)

end

/-- The threshold as it is computed in words of 64 bits. -/
def threshold64 (bound : UInt32) : UInt64 := (0xFFFFFFFF + 1) / bound.toUInt64 * bound.toUInt64

/-- Nothing overflows on the way to the threshold. -/
theorem toNat_threshold64 (bound : UInt32) : (threshold64 bound).toNat = threshold bound.toNat := by
  have hfits : words / bound.toNat * bound.toNat < 2 ^ 64 :=
    Nat.lt_of_le_of_lt (threshold_le bound.toNat) (by decide)
  have hwords : ((0xFFFFFFFF : UInt64) + 1).toNat = words := by decide
  rw [threshold64, UInt64.toNat_mul, UInt64.toNat_div, UInt32.toNat_toUInt64, hwords,
    Nat.mod_eq_of_lt hfits, threshold]

/-- A number below `bound` is chosen by a search that ends. -/
structure Chosen (picker : Picker) (bound : UInt32) (outcome : Nat × Picker) : Prop where
  divisor : bound ≠ 0
  threshold : (threshold64 bound).toNat = words / bound.toNat * bound.toNat
  search : ∃ draws ≤ words, ∃ candidate last,
    Search draw (threshold64 bound).toNat picker draws candidate last ∧
      outcome = (candidate % bound.toNat, last)
  lt : outcome.1 < bound.toNat

theorem toNat_pos_of_ne_zero {bound : UInt32} (hbound : bound ≠ 0) : 0 < bound.toNat :=
  Nat.pos_of_ne_zero fun hzero => hbound (UInt32.toNat.inj hzero)

theorem chosen_of_drawn {bound : UInt32} (hbound : bound ≠ 0) {picker : Picker}
    {outcome : Nat × Picker} (h : Drawn bound.toNat picker outcome) :
    Chosen picker bound outcome := by
  have hpos := toNat_pos_of_ne_zero hbound
  obtain ⟨passed, hpassed, hfound, hearlier, rfl⟩ := h
  refine ⟨hbound, toNat_threshold64 bound, ⟨passed + 1, hpassed, _, _, ?_, rfl⟩,
    Nat.mod_lt _ hpos⟩
  rw [toNat_threshold64]
  exact search_of_skip hfound hearlier

theorem chosen_choose {bound : UInt32} (hbound : bound ≠ 0) (picker : Picker) :
    Chosen picker bound (choose draw bound.toNat picker) := by
  have hpos := toNat_pos_of_ne_zero hbound
  exact chosen_of_drawn hbound (drawn_choose hpos (Nat.le_of_lt bound.toNat_lt) picker)

/-- The length of a list as a bound: the largest word stands for all lengths beyond it. -/
def boundOf (count : Nat) : UInt32 := UInt32.ofNat (min count (words - 1))

theorem toNat_boundOf (count : Nat) : (boundOf count).toNat = min count (words - 1) := by
  rw [boundOf, UInt32.toNat_ofNat_of_lt' (Nat.lt_of_le_of_lt (Nat.min_le_right _ _) (by decide))]

/-- One of so many items is picked: without a draw if there are less than two, and else by a search
that ends. -/
structure Picked (picker : Picker) (count : Nat) (outcome : Nat × Picker) : Prop where
  lt : 0 < count → outcome.1 < count
  zero : count = 0 → outcome.1 = 0
  still : count ≤ 1 → outcome = (0, picker)
  chosen : 1 < count → Chosen picker (boundOf count) outcome

theorem picked_pick (picker : Picker) (count : Nat) : Picked picker count (picker.pick count) := by
  have hchosen : 1 < count → Chosen picker (boundOf count) (picker.pick count) := by
    intro hcount
    have hbound : boundOf count ≠ 0 := by
      intro hzero
      have hmin := toNat_boundOf count
      rw [hzero, UInt32.toNat_zero, words] at hmin
      omega
    refine chosen_of_drawn hbound ?_
    rw [toNat_boundOf]
    exact drawn_pick hcount picker
  refine ⟨fun hpos => ?_, fun hzero => ?_, fun hle => pick_of_le_one hle picker, hchosen⟩
  · by_cases hcount : count ≤ 1
    · rw [pick_of_le_one hcount]
      exact hpos
    · have hlt := (hchosen (Nat.lt_of_not_le hcount)).lt
      rw [toNat_boundOf] at hlt
      exact Nat.lt_of_lt_of_le hlt (Nat.min_le_left _ _)
  · rw [pick_of_le_one (hzero ▸ Nat.zero_le 1)]

/-- One pick after another: what is picked, and from which state of the picker. -/
def picks (picker : Picker) : List Nat → List (Picker × Nat × Picker)
  | [] => []
  | count :: counts => (picker, picker.pick count) :: picks (picker.pick count).2 counts

theorem picked_picks (picker : Picker) (counts : List Nat) :
    List.Forall₂ (fun count pick => Picked pick.1 count pick.2) counts (picker.picks counts) := by
  induction counts generalizing picker with
  | nil => exact .nil
  | cons count counts ih => exact .cons (picked_pick picker count) (ih _)

/-- From every state a choice below every bound is made, and in every sequence of picks all of them
are made. -/
theorem picks_end :
    (∀ (picker : Picker) (bound : UInt32), bound ≠ 0 →
      Chosen picker bound (choose draw bound.toNat picker)) ∧
    ∀ (seed : UInt32) (counts : List Nat),
      List.Forall₂ (fun count pick => Picked pick.1 count pick.2) counts (picks ⟨seed⟩ counts) :=
  ⟨fun picker _ hbound => chosen_choose hbound picker, fun seed => picked_picks ⟨seed⟩⟩

/-- A bound that makes nearly half of all candidates unfit, and picks that meet every case. -/
theorem picks_end_half :
    Chosen ⟨7⟩ 0x80000001 (choose draw 0x80000001 ⟨7⟩) ∧
    List.Forall₂ (fun count pick => Picked pick.1 count pick.2) [3, 0, 1, 0xFFFFFFFFFFFFFFFF]
      (picks ⟨7⟩ [3, 0, 1, 0xFFFFFFFFFFFFFFFF]) :=
  ⟨picks_end.1 ⟨7⟩ 0x80000001 (by decide), picks_end.2 7 _⟩

end Colloquy.Picker
