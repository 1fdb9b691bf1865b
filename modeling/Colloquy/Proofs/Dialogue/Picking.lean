import Colloquy.Dialogue.Picker
import Mathlib.Data.Nat.Find

/-!
Picking ends: the generator comes round to a word that is below every threshold, so the candidates
that are passed over come to an end before all words have been drawn.
-/

namespace Colloquy.Picker

section

variable {σ : Type} (next : σ → UInt32 × σ)

/-- The state after so many candidates. -/
def skip : Nat → σ → σ
  | 0, state => state
  | passed + 1, state => skip passed (next state).2

def candidate (passed : Nat) (state : σ) : Nat := (next (skip next passed state)).1.toNat

variable {limit draws : Nat} {state : σ}

theorem firstBelow_of_lt (h : (next state).1.toNat < limit) :
    firstBelow next limit (draws + 1) state = some ((next state).1.toNat, (next state).2) :=
  if_pos h

theorem firstBelow_of_le (h : limit ≤ (next state).1.toNat) :
    firstBelow next limit (draws + 1) state = firstBelow next limit draws (next state).2 :=
  if_neg (Nat.not_lt_of_le h)

/-- After so many candidates the first one below the limit is drawn. -/
structure IsFirstBelow (limit : Nat) (state : σ) (passed : Nat) : Prop where
  below : candidate next passed state < limit
  earlier : ∀ earlier < passed, limit ≤ candidate next earlier state

variable {next}

theorem exists_isFirstBelow {last : Nat} (h : candidate next last state < limit) :
    ∃ passed ≤ last, IsFirstBelow next limit state passed := by
  have hsome : ∃ passed, candidate next passed state < limit := ⟨last, h⟩
  refine ⟨Nat.find hsome, Nat.find_min' hsome h, Nat.find_spec hsome, fun earlier hlt => ?_⟩
  exact Nat.le_of_not_lt (Nat.find_min hsome hlt)

/-- Candidates are passed over up to the first one below the limit. -/
theorem IsFirstBelow.firstBelow_eq {passed : Nat} (h : IsFirstBelow next limit state passed)
    (hdraws : passed < draws) :
    firstBelow next limit draws state =
      some (candidate next passed state, (next (skip next passed state)).2) := by
  induction draws generalizing state passed with
  | zero => exact absurd hdraws (Nat.not_lt_zero passed)
  | succ draws ih =>
      cases passed with
      | zero => exact firstBelow_of_lt next h.below
      | succ passed =>
          have hrest : IsFirstBelow next limit (next state).2 passed :=
            ⟨h.below, fun earlier hlt => h.earlier (earlier + 1) (Nat.succ_lt_succ hlt)⟩
          have hpassed : limit ≤ (next state).1.toNat := h.earlier 0 (Nat.succ_pos passed)
          rw [firstBelow_of_le next hpassed, ih hrest (Nat.lt_of_succ_lt_succ hdraws)]
          rfl

theorem IsFirstBelow.choose?_eq {bound passed : Nat}
    (h : IsFirstBelow next (threshold bound) state passed) (hdraws : passed < draws) :
    choose? next bound draws state =
      some (candidate next passed state % bound, (next (skip next passed state)).2) := by
  rw [choose?, h.firstBelow_eq hdraws]
  rfl

end

theorem state_skip (passed : Nat) (picker : Picker) :
    (skip draw passed picker).state = picker.state + UInt32.ofNat passed * step := by
  induction passed generalizing picker with
  | zero => simp [skip]
  | succ passed ih =>
      rw [skip, ih, UInt32.ofNat_add]
      have hdrawn : picker.draw.2.state = picker.state + step := rfl
      rw [hdrawn]
      grind

/-- The factor that undoes the multiplication of words by the size of a step. -/
def unstep : UInt32 := 0xdc58aa5d

theorem unstep_mul_step : unstep * step = 1 := by decide

/-- Some candidate comes from the word zero, which is mixed to itself. -/
theorem exists_candidate_zero (picker : Picker) :
    ∃ passed < words, candidate draw passed picker = 0 := by
  let last : UInt32 := -picker.state * unstep - 1
  refine ⟨last.toNat, last.toNat_lt, ?_⟩
  have hstate : (skip draw last.toNat picker).state + step = 0 := by
    rw [state_skip, UInt32.ofNat_toNat]
    have hunstep := unstep_mul_step
    simp only [last]
    grind
  have hmix : mix 0 = 0 := by decide
  rw [candidate, draw, hstate, hmix]
  rfl

theorem threshold_pos {bound : Nat} (hbound : 0 < bound) (hle : bound ≤ words) :
    0 < threshold bound :=
  Nat.mul_pos (Nat.div_pos hle hbound) hbound

/-- The outcome of a search for a number below `bound` that ends: it comes from the first candidate
below the threshold, one of those that the picker draws before it has gone round all words. -/
def Drawn (bound : Nat) (picker : Picker) (outcome : Nat × Picker) : Prop :=
  ∃ passed < words, candidate draw passed picker < threshold bound ∧
    (∀ earlier < passed, threshold bound ≤ candidate draw earlier picker) ∧
    outcome = (candidate draw passed picker % bound, (skip draw passed picker).draw.2)

theorem drawn_choose {bound : Nat} (hbound : 0 < bound) (hle : bound ≤ words) (picker : Picker) :
    Drawn bound picker (choose draw bound picker) := by
  obtain ⟨last, hlast, hzero⟩ := exists_candidate_zero picker
  have hbelow : candidate draw last picker < threshold bound := by
    rw [hzero]
    exact threshold_pos hbound hle
  obtain ⟨passed, hpassed, hfirst⟩ := exists_isFirstBelow hbelow
  refine ⟨passed, Nat.lt_of_le_of_lt hpassed hlast, hfirst.below, hfirst.earlier, ?_⟩
  rw [choose, hfirst.choose?_eq (Nat.lt_of_le_of_lt hpassed hlast)]
  rfl

theorem drawn_pick {count : Nat} (hcount : 1 < count) (picker : Picker) :
    Drawn (min count (words - 1)) picker (picker.pick count) := by
  have hwords : 1 < words - 1 := by decide
  rw [pick, if_neg (Nat.not_le_of_lt hcount)]
  exact drawn_choose (by omega) (by omega) picker

end Colloquy.Picker
