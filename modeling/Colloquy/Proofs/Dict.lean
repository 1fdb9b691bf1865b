import Colloquy.Dict
import Mathlib.Data.List.Induction

/-!
Dictionaries and lists of entries: look-up in one direction, membership in the other.
-/

namespace Colloquy.Dict

variable {α : Type}

theorem lookup_eq_some_iff {key : String} {value : α} {entries : List (String × α)}
    (hsorted : entries.Pairwise (·.1 < ·.1)) :
    lookup key entries = some value ↔ (key, value) ∈ entries := by
  induction entries with
  | nil => simp [lookup]
  | cons head rest ih =>
      obtain ⟨k, v⟩ := head
      obtain ⟨hk, hrest⟩ := List.pairwise_cons.mp hsorted
      by_cases heq : k = key
      · subst heq
        have hnot : (k, value) ∉ rest := fun hmem => String.lt_irrefl k (hk _ hmem)
        simp [lookup, hnot, eq_comm]
      · have hne : key ≠ k := fun h => heq h.symm
        simp [lookup, heq, hne, ih hrest]

theorem get?_eq_some_iff {d : Dict α} {key : String} {value : α} :
    d.get? key = some value ↔ (key, value) ∈ d.entries :=
  lookup_eq_some_iff d.sorted

theorem mem_keys_of_get? {d : Dict α} {key : String} {value : α} (h : d.get? key = some value) :
    key ∈ d.keys :=
  mem_keys_iff.mpr (h ▸ rfl)

theorem insert_insert (d : Dict α) (key : String) (first last : α) :
    (d.insert key first).insert key last = d.insert key last := by
  ext other : 1
  by_cases hkey : key = other
  · simp [hkey]
  · simp [hkey]

theorem ofList_append_singleton (entries : List (String × α)) (entry : String × α) :
    ofList (entries ++ [entry]) = (ofList entries).insert entry.1 entry.2 := by
  simp [ofList]

/-- A key that comes with one value only is found with that value. -/
theorem get?_ofList_eq_some_iff {entries : List (String × α)} {key : String}
    (hsingle : ∀ v w, (key, v) ∈ entries → (key, w) ∈ entries → v = w) {value : α} :
    (ofList entries).get? key = some value ↔ (key, value) ∈ entries := by
  induction entries using List.reverseRecOn with
  | nil => simp [ofList]
  | append_singleton entries entry ih =>
      obtain ⟨k, v⟩ := entry
      have ih' := ih fun v w hv hw =>
        hsingle v w (List.mem_append_left _ hv) (List.mem_append_left _ hw)
      rw [ofList_append_singleton, get?_insert]
      by_cases heq : k = key
      · subst heq
        rw [if_pos rfl, Option.some.injEq]
        constructor
        · rintro rfl
          simp
        · intro hmem
          exact hsingle v value (by simp) hmem
      · have hne : key ≠ k := fun h => heq h.symm
        rw [if_neg heq, ih']
        simp [hne]

/-- A key is found with one of the values that it comes with. -/
theorem exists_get?_ofList {entries : List (String × α)} {key : String} {value : α}
    (h : (key, value) ∈ entries) :
    ∃ last, (ofList entries).get? key = some last ∧ (key, last) ∈ entries := by
  induction entries using List.reverseRecOn with
  | nil => cases h
  | append_singleton entries entry ih =>
      obtain ⟨k, v⟩ := entry
      rw [ofList_append_singleton, get?_insert]
      by_cases heq : k = key
      · subst heq
        exact ⟨v, if_pos rfl, List.mem_append_right entries List.mem_cons_self⟩
      · rw [if_neg heq]
        rcases List.mem_append.mp h with hmem | hlast
        · obtain ⟨last, hget, hentry⟩ := ih hmem
          exact ⟨last, hget, List.mem_append_left _ hentry⟩
        · exact absurd (congrArg Prod.fst (List.mem_singleton.mp hlast)).symm heq

theorem ofList_entries (d : Dict α) : ofList d.entries = d := by
  ext key value
  rw [get?_ofList_eq_some_iff, get?_eq_some_iff]
  intro v w hv hw
  exact Option.some.inj ((get?_eq_some_iff.mpr hv).symm.trans (get?_eq_some_iff.mpr hw))

theorem eq_empty_of_isEmpty {d : Dict α} (h : d.isEmpty = true) : d = ∅ := by
  ext key : 1
  rw [get?, List.isEmpty_iff.mp h]
  rfl

theorem lookup_eq_lookup (key : String) (entries : List (String × α)) :
    lookup key entries = entries.lookup key := by
  induction entries with
  | nil => rfl
  | cons head rest ih =>
      obtain ⟨k, v⟩ := head
      by_cases heq : key = k
      · subst heq
        simp [lookup]
      · have hne : (key == k) = false := beq_eq_false_iff_ne.mpr heq
        rw [lookup, if_neg fun h => heq h.symm, ih, List.lookup_cons, hne]

theorem get?_foldl_insertNew (entries : List (String × α)) (d : Dict α) (key : String) :
    (entries.foldl (fun d e => d.insertNew e.1 e.2) d).get? key =
      (d.get? key).or (entries.lookup key) := by
  induction entries generalizing d with
  | nil => simp
  | cons head rest ih =>
      obtain ⟨k, v⟩ := head
      rw [List.foldl_cons, ih, get?_insertNew, List.lookup_cons]
      by_cases heq : k = key
      · subst heq
        cases d.get? k <;> simp
      · have hne : (key == k) = false := beq_eq_false_iff_ne.mpr fun h => heq h.symm
        rw [if_neg heq, hne]

/-- Of several entries with one key the first one is found. -/
theorem get?_ofListFirst (entries : List (String × α)) (key : String) :
    (ofListFirst entries).get? key = entries.lookup key := by
  rw [ofListFirst, get?_foldl_insertNew, get?_empty, Option.none_or]

theorem ofListFirst_entries (d : Dict α) : ofListFirst d.entries = d := by
  ext key : 1
  rw [get?_ofListFirst, ← lookup_eq_lookup]
  rfl

end Colloquy.Dict
