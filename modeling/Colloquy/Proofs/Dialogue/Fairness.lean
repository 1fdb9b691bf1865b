import Colloquy.Proofs.Dialogue.Draws
import Mathlib.Data.Int.CardIntervalMod
import Mathlib.SetTheory.Cardinal.Finite

/-!
Choices are fair.  The first candidate below the threshold decides, and of the words below the
threshold every remainder has the same number, so a source that favours no word favours no choice.
-/

namespace Colloquy.Picker

section

variable {σ : Type} {next : σ → UInt32 × σ} {limit draws : Nat} {state : σ}

theorem firstBelow_eq_none (hall : ∀ passed < draws, limit ≤ candidate next passed state) :
    firstBelow next limit draws state = none := by
  induction draws generalizing state with
  | zero => rfl
  | succ draws ih =>
      have hfirst : limit ≤ (next state).1.toNat := hall 0 (Nat.succ_pos draws)
      rw [firstBelow_of_le next hfirst]
      exact ih fun passed hlt => hall (passed + 1) (Nat.succ_lt_succ hlt)

/-- The search is still without an outcome only if every candidate had to be passed over. -/
theorem firstBelow_eq_none_iff :
    firstBelow next limit draws state = none ↔
      ∀ passed < draws, limit ≤ candidate next passed state := by
  refine ⟨fun hnone passed hlt => Nat.le_of_not_lt fun hbelow => ?_, firstBelow_eq_none⟩
  obtain ⟨first, hle, hfirst⟩ := exists_isFirstBelow hbelow
  rw [hfirst.firstBelow_eq (Nat.lt_of_le_of_lt hle hlt)] at hnone
  cases hnone

theorem choose?_eq_none_iff {bound : Nat} :
    choose? next bound draws state = none ↔
      ∀ passed < draws, threshold bound ≤ candidate next passed state := by
  rw [choose?, Option.map_eq_none_iff, firstBelow_eq_none_iff]

end

/-!
Counting words.
-/

theorem card_words (p : Nat → Prop) [DecidablePred p] :
    Nat.card {word : UInt32 // p word.toNat} = ((Finset.range words).filter p).card := by
  rw [← Nat.subtype_card ((Finset.range words).filter p) fun _ => Finset.mem_filter]
  refine Nat.card_congr
    { toFun := fun word => ⟨word.1.toNat, Finset.mem_range.mpr word.1.toNat_lt, word.2⟩
      invFun := fun n => ⟨UInt32.ofNat n.1, ?_⟩
      left_inv := fun word => Subtype.ext UInt32.ofNat_toNat
      right_inv := fun n => Subtype.ext ?_ }
  · rw [UInt32.toNat_ofNat_of_lt' (Finset.mem_range.mp n.2.1)]
    exact n.2.2
  · exact UInt32.toNat_ofNat_of_lt' (Finset.mem_range.mp n.2.1)

/-- Less words are unfit than there are choices. -/
theorem card_unfit (bound : Nat) :
    Nat.card {word : UInt32 // threshold bound ≤ word.toNat} = words % bound := by
  have hfilter : (Finset.range words).filter (threshold bound ≤ ·) =
      Finset.Ico (threshold bound) words := by
    ext n
    simp only [Finset.mem_filter, Finset.mem_range, Finset.mem_Ico, and_comm]
  have hparts : threshold bound + words % bound = words := by
    rw [threshold, Nat.mul_comm]
    exact Nat.div_add_mod words bound
  rw [card_words, hfilter, Nat.card_Ico]
  omega

theorem card_remainder {bound r : Nat} (hr : r < bound) :
    Nat.card {word : UInt32 // word.toNat < threshold bound ∧ word.toNat % bound = r} =
      words / bound := by
  have hbound : 0 < bound := Nat.zero_lt_of_lt hr
  have hle := threshold_le bound
  have hfilter : (Finset.range words).filter (fun n => n < threshold bound ∧ n % bound = r) =
      (Finset.range (threshold bound)).filter (· ≡ r [MOD bound]) := by
    ext n
    simp only [Finset.mem_filter, Finset.mem_range, Nat.ModEq, Nat.mod_eq_of_lt hr]
    exact ⟨And.right, fun h => ⟨Nat.lt_of_lt_of_le h.1 hle, h⟩⟩
  have hrest : threshold bound % bound = 0 := Nat.mod_eq_zero_of_dvd (dvd_threshold bound)
  rw [card_words fun n => n < threshold bound ∧ n % bound = r, hfilter,
    ← Nat.count_eq_card_filter_range, Nat.count_modEq_card _ hbound, hrest,
    if_neg (Nat.not_lt_zero _), Nat.add_zero, threshold, Nat.mul_div_cancel _ hbound]

theorem lt_threshold64_iff (bound word : UInt32) :
    word.toUInt64 < threshold64 bound ↔ word.toNat < threshold bound.toNat := by
  rw [UInt64.lt_iff_toNat_lt, toNat_threshold64, UInt32.toNat_toUInt64]

/-- The threshold for choices below `bound`, which cuts off as few words as leave every choice with
the same number of them. -/
structure Fair (bound : UInt32) : Prop where
  computed : (threshold64 bound).toNat = threshold bound.toNat
  compared : ∀ word : UInt32,
    word.toUInt64 < threshold64 bound ↔ word.toNat < threshold bound.toNat
  positive : 0 < threshold bound.toNat
  multiple : bound.toNat ∣ threshold bound.toNat
  le_words : threshold bound.toNat ≤ 2 ^ 32
  unfit : Nat.card {word : UInt32 // threshold bound.toNat ≤ word.toNat} < bound.toNat
  equal : ∀ r < bound.toNat,
    Nat.card {word : UInt32 // word.toNat < threshold bound.toNat ∧ word.toNat % bound.toNat = r} =
      2 ^ 32 / bound.toNat

theorem fair {bound : UInt32} (hbound : bound ≠ 0) : Fair bound where
  computed := toNat_threshold64 bound
  compared := lt_threshold64_iff bound
  positive := threshold_pos (toNat_pos_of_ne_zero hbound) (Nat.le_of_lt bound.toNat_lt)
  multiple := dvd_threshold bound.toNat
  le_words := threshold_le bound.toNat
  unfit := card_unfit bound.toNat ▸ Nat.mod_lt words (toNat_pos_of_ne_zero hbound)
  equal := fun _ hr => card_remainder hr

/-- Whatever the source of candidates is, the first one below the threshold decides, by its
remainder, however many come before it; and of the words below the threshold equally many have each
remainder. -/
theorem choose?_fair {bound : UInt32} (hbound : bound ≠ 0) :
    Fair bound ∧
      ∀ {σ : Type} (next : σ → UInt32 × σ) (state : σ) (draws : Nat),
        (∀ passed < draws, IsFirstBelow next (threshold bound.toNat) state passed →
          choose? next bound.toNat draws state =
            some (candidate next passed state % bound.toNat, (next (skip next passed state)).2)) ∧
        (choose? next bound.toNat draws state = none ↔
          ∀ passed < draws, threshold bound.toNat ≤ candidate next passed state) := by
  refine ⟨fair hbound, fun next state draws => ⟨fun passed hlt hfirst => ?_, choose?_eq_none_iff⟩⟩
  exact hfirst.choose?_eq hlt

/-- A source that starts with the largest word, which is unfit for ten choices. -/
def retrying (drawn : Nat) : UInt32 × Nat := (if drawn = 0 then 0xFFFFFFFF else 42, drawn + 1)

theorem choose?_fair_retrying :
    Fair 10 ∧ IsFirstBelow retrying (threshold 10) 0 1 ∧
      choose? retrying 10 1 0 = none ∧ choose? retrying 10 2 0 = some (2, 2) := by
  have hfirst : IsFirstBelow retrying (threshold 10) 0 1 := ⟨by decide, by decide⟩
  have hten : (10 : UInt32) ≠ 0 := by decide
  have hfair := choose?_fair hten
  refine ⟨hfair.1, hfirst, (hfair.2 retrying 0 1).2.mpr ?_, (hfair.2 retrying 0 2).1 1 ?_ hfirst⟩
  · decide
  · decide

end Colloquy.Picker
