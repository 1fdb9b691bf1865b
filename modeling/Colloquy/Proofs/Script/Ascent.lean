import Colloquy.Script.Basic
import Mathlib.Data.List.Pairwise

/-!
Paths that lead on and on among the inputs of a script, in the order of their declaration.  Where a
path is declared several times, its last place counts, so the way may jump ahead but never back.
-/

namespace Colloquy

/-- The place is declared before another: in an earlier form, or earlier in the same one. -/
def Place.Before (place later : Place) : Prop :=
  place.form < later.form ∨ place.form = later.form ∧ place.input < later.input

theorem pairwise_snd_lt_zipIdx {α : Type} (items : List α) :
    items.zipIdx.Pairwise fun entry later => entry.2 < later.2 := by
  apply List.pairwise_map.mp
  rw [List.zipIdx_map_snd]
  exact List.pairwise_lt_range'

namespace Script

variable {script : Script} {path : String} {paths : List String} {rank start : Nat}

theorem entries_pairwise (script : Script) :
    script.entries.Pairwise fun entry later => entry.1.Before later.1 := by
  unfold entries
  rw [List.pairwise_flatMap]
  constructor
  · rintro ⟨form, i⟩ _
    rw [List.pairwise_map]
    exact (pairwise_snd_lt_zipIdx form.inputs).imp fun hlt => .inr ⟨rfl, hlt⟩
  · refine (pairwise_snd_lt_zipIdx script.forms).imp fun hlt entry hentry later hlater => ?_
    obtain ⟨_, _, rfl⟩ := List.mem_map.mp hentry
    obtain ⟨_, _, rfl⟩ := List.mem_map.mp hlater
    exact .inl hlt

theorem before_of_rank_lt {first second : Nat} {entry later : Place × Input}
    (hentry : script.entries[first]? = some entry) (hlater : script.entries[second]? = some later)
    (hlt : first < second) : entry.1.Before later.1 := by
  obtain ⟨hfirst, rfl⟩ := List.getElem?_eq_some_iff.mp hentry
  obtain ⟨hsecond, rfl⟩ := List.getElem?_eq_some_iff.mp hlater
  exact List.pairwise_iff_getElem.mp script.entries_pairwise first second hfirst hsecond hlt

theorem place?_of_rank? (h : script.rank? path = some rank) :
    ∃ entry, script.entries[rank]? = some entry ∧ script.place? path = some entry.1 := by
  obtain ⟨entry, hentry, _⟩ := exists_of_lastIndex? h
  exact ⟨entry, hentry, by simp [place?, h, hentry]⟩

/-- The paths lead on, each to a higher rank, from the rank `start` at the earliest. -/
inductive Ascends (script : Script) : Nat → List String → Prop where
  | done {start : Nat} : Ascends script start []
  | move {start rank : Nat} {path : String} {paths : List String}
      (ranked : script.rank? path = some rank) (ahead : start ≤ rank)
      (rest : Ascends script (rank + 1) paths) : Ascends script start (path :: paths)

namespace Ascends

theorem mono {earlier : Nat} (h : script.Ascends start paths) (hle : earlier ≤ start) :
    script.Ascends earlier paths := by
  cases h with
  | done => exact .done
  | move ranked ahead rest => exact .move ranked (Nat.le_trans hle ahead) rest

theorem length_le (h : script.Ascends start paths) :
    paths.length ≤ script.entries.length - start := by
  induction h with
  | done => exact Nat.zero_le _
  | move ranked ahead rest ih =>
      have hlt := rank?_lt ranked
      rw [List.length_cons]
      omega

/-- The places come one after another, all of them behind those of lower ranks than `start`. -/
theorem exists_places (h : script.Ascends start paths) :
    ∃ places : List Place, paths.map script.place? = places.map some ∧
      places.Pairwise Place.Before ∧ ∀ place ∈ places, ∀ rank < start, ∀ entry,
        script.entries[rank]? = some entry → entry.1.Before place := by
  induction h with
  | done => exact ⟨[], rfl, .nil, fun _ h => absurd h List.not_mem_nil⟩
  | @move start rank path paths ranked ahead rest ih =>
      obtain ⟨places, hplaces, hpairwise, hbehind⟩ := ih
      obtain ⟨entry, hentry, hplace⟩ := place?_of_rank? ranked
      refine ⟨entry.1 :: places, by simp [hplace, hplaces], ?_, ?_⟩
      · refine List.pairwise_cons.mpr ⟨fun place hmem => ?_, hpairwise⟩
        exact hbehind place hmem rank (Nat.lt_succ_self rank) entry hentry
      · intro place hmem lower hlower other hother
        rcases List.mem_cons.mp hmem with rfl | hlater
        · exact before_of_rank_lt hother hentry (Nat.lt_of_lt_of_le hlower ahead)
        · exact hbehind place hlater lower (by omega) other hother

end Ascends

end Script

end Colloquy
