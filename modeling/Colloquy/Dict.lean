/-!
Dictionaries with text keys, kept in ascending order of their keys.  Two dictionaries with the same
look-ups are equal, and their entries always come out in key order.
-/

namespace Colloquy

/-- Entries in strictly ascending order of their keys. -/
structure Dict (α : Type) where
  entries : List (String × α)
  sorted : entries.Pairwise (·.1 < ·.1)

namespace Dict

variable {α : Type}

instance [DecidableEq α] : DecidableEq (Dict α) := fun d e =>
  if h : d.entries = e.entries then
    isTrue (by cases d; cases e; cases h; rfl)
  else isFalse fun heq => h (congrArg entries heq)

def empty : Dict α := ⟨[], .nil⟩

instance : EmptyCollection (Dict α) := ⟨empty⟩

instance : Inhabited (Dict α) := ⟨empty⟩

def keys (d : Dict α) : List String := d.entries.map (·.1)

def isEmpty (d : Dict α) : Bool := d.entries.isEmpty

def lookup (key : String) : List (String × α) → Option α
  | [] => none
  | (k, v) :: rest => if k = key then some v else lookup key rest

def get? (d : Dict α) (key : String) : Option α := lookup key d.entries

def insertEntry (key : String) (value : α) : List (String × α) → List (String × α)
  | [] => [(key, value)]
  | (k, v) :: rest =>
    if key = k then (key, value) :: rest
    else if key < k then (key, value) :: (k, v) :: rest
    else (k, v) :: insertEntry key value rest

theorem mem_insertEntry {key : String} {value : α} {entries : List (String × α)}
    {entry : String × α} (h : entry ∈ insertEntry key value entries) :
    entry = (key, value) ∨ entry ∈ entries := by
  induction entries with
  | nil => simpa [insertEntry] using h
  | cons head rest ih =>
    obtain ⟨k, v⟩ := head
    rw [insertEntry] at h
    split at h
    · rcases List.mem_cons.1 h with h | h
      · exact .inl h
      · exact .inr (List.mem_cons_of_mem _ h)
    · split at h
      · rcases List.mem_cons.1 h with h | h
        · exact .inl h
        · exact .inr h
      · rcases List.mem_cons.1 h with h | h
        · exact .inr (h ▸ List.mem_cons_self)
        · exact (ih h).imp_right (List.mem_cons_of_mem _)

theorem pairwise_insertEntry (key : String) (value : α) {entries : List (String × α)}
    (h : entries.Pairwise (·.1 < ·.1)) :
    (insertEntry key value entries).Pairwise (·.1 < ·.1) := by
  induction entries with
  | nil => simp [insertEntry]
  | cons head rest ih =>
    obtain ⟨k, v⟩ := head
    obtain ⟨hk, hrest⟩ := List.pairwise_cons.1 h
    rw [insertEntry]
    split
    · next heq => exact List.pairwise_cons.2 ⟨fun e he => heq ▸ hk e he, hrest⟩
    · split
      · next hlt =>
        refine List.pairwise_cons.2 ⟨fun e he => ?_, h⟩
        rcases List.mem_cons.1 he with he | he
        · exact he ▸ hlt
        · exact String.lt_trans hlt (hk e he)
      · next hne hlt =>
        refine List.pairwise_cons.2 ⟨fun e he => ?_, ih hrest⟩
        rcases mem_insertEntry he with he | he
        · subst he
          grind
        · exact hk e he

def insert (d : Dict α) (key : String) (value : α) : Dict α :=
  ⟨insertEntry key value d.entries, pairwise_insertEntry key value d.sorted⟩

/-- An entry for `key` that is there already stays. -/
def insertNew (d : Dict α) (key : String) (value : α) : Dict α :=
  if (d.get? key).isSome then d else d.insert key value

def erase (d : Dict α) (key : String) : Dict α :=
  ⟨d.entries.filter (·.1 ≠ key), d.sorted.filter _⟩

/-- Of several entries with one key the last one counts. -/
def ofList (entries : List (String × α)) : Dict α :=
  entries.foldl (fun d e => d.insert e.1 e.2) ∅

/-- Of several entries with one key the first one counts. -/
def ofListFirst (entries : List (String × α)) : Dict α :=
  entries.foldl (fun d e => d.insertNew e.1 e.2) ∅

theorem lookup_insertEntry (key other : String) (value : α) (entries : List (String × α)) :
    lookup other (insertEntry key value entries) =
      if key = other then some value else lookup other entries := by
  induction entries with
  | nil => simp [insertEntry, lookup]
  | cons head rest ih =>
    obtain ⟨k, v⟩ := head
    rw [insertEntry]
    split
    · next heq => subst heq; by_cases h : key = other <;> simp [lookup, h]
    · next hne =>
      split
      · simp [lookup]
      · by_cases hk : k = other
        · have : key ≠ other := fun h => hne (h.trans hk.symm)
          simp [lookup, hk, this]
        · simp [lookup, hk, ih]

@[simp] theorem get?_empty (key : String) : (∅ : Dict α).get? key = none := rfl

@[simp] theorem get?_insert (d : Dict α) (key other : String) (value : α) :
    (d.insert key value).get? other = if key = other then some value else d.get? other :=
  lookup_insertEntry key other value d.entries

theorem lookup_filter (key other : String) (entries : List (String × α)) :
    lookup other (entries.filter (·.1 ≠ key)) =
      if key = other then none else lookup other entries := by
  induction entries with
  | nil => simp [lookup]
  | cons head rest ih =>
    obtain ⟨k, v⟩ := head
    by_cases hk : k = key
    · subst hk
      by_cases h : k = other <;> simp_all [lookup]
    · by_cases h : key = other
      · subst h
        simp_all [lookup]
      · simp_all [lookup]

@[simp] theorem get?_erase (d : Dict α) (key other : String) :
    (d.erase key).get? other = if key = other then none else d.get? other :=
  lookup_filter key other d.entries

theorem get?_insertNew (d : Dict α) (key other : String) (value : α) :
    (d.insertNew key value).get? other =
      if key = other then some ((d.get? key).getD value) else d.get? other := by
  rw [insertNew]
  split
  · next h =>
    obtain ⟨v, hv⟩ := Option.isSome_iff_exists.1 h
    split
    · next heq => subst heq; simp [hv]
    · rfl
  · next h =>
    have hnone : d.get? key = none := by simpa using h
    simp [hnone]

theorem lookup_eq_none_of_forall_lt {key : String} {entries : List (String × α)}
    (h : ∀ e ∈ entries, key < e.1) : lookup key entries = none := by
  induction entries with
  | nil => rfl
  | cons head rest ih =>
    obtain ⟨k, v⟩ := head
    have hk : key < k := h (k, v) List.mem_cons_self
    have hne : k ≠ key := fun heq => String.lt_irrefl key (heq ▸ hk)
    simp [lookup, hne, ih fun e he => h e (List.mem_cons_of_mem _ he)]

theorem entries_eq_of_lookup {first second : List (String × α)}
    (hfirst : first.Pairwise (·.1 < ·.1)) (hsecond : second.Pairwise (·.1 < ·.1))
    (h : ∀ key, lookup key first = lookup key second) : first = second := by
  induction first generalizing second with
  | nil =>
    cases second with
    | nil => rfl
    | cons head rest => simpa [lookup] using h head.1
  | cons head rest ih =>
    obtain ⟨k, v⟩ := head
    cases second with
    | nil => simpa [lookup] using h k
    | cons head' rest' =>
      obtain ⟨k', v'⟩ := head'
      obtain ⟨hk, hrest⟩ := List.pairwise_cons.1 hfirst
      obtain ⟨hk', hrest'⟩ := List.pairwise_cons.1 hsecond
      have hkeys : k = k' := by
        by_cases heq : k = k'
        · exact heq
        by_cases hlt : k < k'
        · have hnone : lookup k ((k', v') :: rest') = none :=
            lookup_eq_none_of_forall_lt fun e he => by
              rcases List.mem_cons.1 he with he | he
              · exact he ▸ hlt
              · exact String.lt_trans hlt (hk' e he)
          rw [← h k] at hnone
          simp [lookup] at hnone
        · have hlt' : k' < k := by grind
          have hnone : lookup k' ((k, v) :: rest) = none :=
            lookup_eq_none_of_forall_lt fun e he => by
              rcases List.mem_cons.1 he with he | he
              · exact he ▸ hlt'
              · exact String.lt_trans hlt' (hk e he)
          rw [h k'] at hnone
          simp [lookup] at hnone
      subst hkeys
      have hvalues : v = v' := by simpa [lookup] using h k
      subst hvalues
      have htails : rest = rest' := by
        refine ih hrest hrest' fun key => ?_
        by_cases hkey : k = key
        · subst hkey
          rw [lookup_eq_none_of_forall_lt hk, lookup_eq_none_of_forall_lt hk']
        · simpa [lookup, hkey] using h key
      rw [htails]

@[ext] theorem ext {d e : Dict α} (h : ∀ key, d.get? key = e.get? key) : d = e := by
  have := entries_eq_of_lookup d.sorted e.sorted h
  cases d
  cases e
  cases this
  rfl

theorem lookup_isSome_iff {key : String} {entries : List (String × α)} :
    (lookup key entries).isSome ↔ key ∈ entries.map (·.1) := by
  induction entries with
  | nil => simp [lookup]
  | cons head rest ih =>
    obtain ⟨k, v⟩ := head
    by_cases h : k = key
    · simp [lookup, h]
    · have h' : key ≠ k := fun heq => h heq.symm
      simp only [lookup, h, ↓reduceIte, ih, List.map_cons, List.mem_cons, h', false_or]

theorem mem_keys_iff {d : Dict α} {key : String} : key ∈ d.keys ↔ (d.get? key).isSome :=
  lookup_isSome_iff.symm

end Dict

end Colloquy
