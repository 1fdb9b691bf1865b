import Mathlib.Data.List.Forall2

/-!
Computations that may fail: what a success goes back to, and what a failure is.
-/

namespace Colloquy

variable {α β ε : Type}

theorem exists_of_bind_eq_ok {first : Except ε α} {next : α → Except ε β}
    {result : β} (h : first >>= next = .ok result) :
    ∃ value, first = .ok value ∧ next value = .ok result := by
  cases first with
  | error fault => cases h
  | ok value => exact ⟨value, rfl, h⟩

theorem eq_of_guard_eq_ok {p : Prop} [Decidable p] {fault : ε} {value : Except ε α}
    {result : α} (h : (if p then .error fault else value) = .ok result) :
    ¬ p ∧ value = .ok result := by
  split at h
  · cases h
  · next hp => exact ⟨hp, h⟩

/-- A pass over a list gives one result for each item. -/
theorem forall₂_of_mapM {f : α → Except ε β} {items : List α} {results : List β}
    (h : items.mapM f = .ok results) :
    List.Forall₂ (fun item result => f item = .ok result) items results := by
  induction items generalizing results with
  | nil =>
      obtain rfl : [] = results := Except.ok.inj h
      exact .nil
  | cons item items ih =>
      rw [List.mapM_cons] at h
      obtain ⟨first, hfirst, h⟩ := exists_of_bind_eq_ok h
      obtain ⟨rest, hrest, h⟩ := exists_of_bind_eq_ok h
      obtain rfl := Except.ok.inj h
      exact .cons hfirst (ih hrest)

theorem exists_of_mem_mapM {f : α → Except ε β} {items : List α}
    {results : List β} (h : items.mapM f = .ok results) {result : β} (hresult : result ∈ results) :
    ∃ item ∈ items, f item = .ok result := by
  have hall := forall₂_of_mapM h
  obtain ⟨index, hindex, rfl⟩ := List.getElem_of_mem hresult
  have hitem : index < items.length := hall.length_eq ▸ hindex
  exact ⟨items[index], List.getElem_mem hitem, hall.get hitem hindex⟩

/-!
What a computation fails with, whatever it gives if it does not.
-/

def failure? : Except ε α → Option ε
  | .error fault => some fault
  | .ok _ => none

theorem failure?_eq_some {run : Except ε α} {fault : ε} :
    failure? run = some fault ↔ run = .error fault := by
  cases run <;> simp [failure?]

theorem failure?_eq_none {run : Except ε α} :
    failure? run = none ↔ ∃ result, run = .ok result := by
  cases run <;> simp [failure?]

theorem mapError_eq_error_iff {γ : Type} {g : ε → γ} {run : Except ε α} {result : γ} :
    run.mapError g = .error result ↔ ∃ fault, failure? run = some fault ∧ g fault = result := by
  cases run <;> simp [failure?, Except.mapError]

theorem failure?_bind {first : Except ε α} {next : α → Except ε β} (later : Option ε)
    (h : ∀ result, first = .ok result → failure? (next result) = later) :
    failure? (first >>= next) = (failure? first).or later := by
  cases first with
  | error fault => rfl
  | ok result => exact h result rfl

/-- A pass over a list fails with the first failure on an item. -/
theorem failure?_mapM (f : α → Except ε β) (items : List α) :
    failure? (items.mapM f) = items.findSome? fun item => failure? (f item) := by
  induction items with
  | nil => rfl
  | cons item items ih =>
      rw [List.mapM_cons, failure?_bind (items.findSome? fun item => failure? (f item)),
        List.findSome?_cons]
      · cases failure? (f item) <;> rfl
      · intro result _
        rw [failure?_bind none fun _ _ => rfl, ih, Option.or_none]

/-- Where the positions do not matter for the failures, neither do they for those of a pass. -/
theorem failure?_mapM_zipIdx {f : α → Nat → Except ε β} {fault? : α → Option ε}
    (h : ∀ item index, failure? (f item index) = fault? item) (items : List α) :
    failure? (items.zipIdx.mapM fun (item, index) => f item index) = items.findSome? fault? := by
  calc failure? (items.zipIdx.mapM fun (item, index) => f item index)
      = items.zipIdx.findSome? (fault? ∘ Prod.fst) := by
        rw [failure?_mapM]
        exact congrArg (items.zipIdx.findSome? ·) (funext fun (item, index) => h item index)
    _ = items.findSome? fault? := by rw [← List.findSome?_map, List.zipIdx_map_fst]

/-- If items can be told by their results, so can it be told if there is one of a kind. -/
theorem any_eq_of_mapM {f : α → Except ε β} {p : α → Bool} {q : β → Bool}
    (h : ∀ item result, f item = .ok result → q result = p item) {items : List α}
    {results : List β} (hresults : items.mapM f = .ok results) : results.any q = items.any p := by
  have hall := forall₂_of_mapM hresults
  clear hresults
  induction hall with
  | nil => rfl
  | cons hfirst _ ih => rw [List.any_cons, List.any_cons, h _ _ hfirst, ih]

end Colloquy
