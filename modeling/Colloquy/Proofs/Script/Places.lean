import Colloquy.Script.Basic
import Mathlib.Data.List.Nodup

/-!
Where the inputs of a script stand.  As long as no two inputs share a path, look-ups by path and
steps to the next input come down to positions in the list of a form's inputs.
-/

namespace Colloquy

/-- An item that no other item shares `p` with is the last one that satisfies it. -/
theorem lastIndex?_eq_of_unique {α : Type} {p : α → Bool} {items : List α} {k : Nat} {item : α}
    (hitem : items[k]? = some item) (hp : p item = true)
    (hunique : ∀ j other, items[j]? = some other → p other = true → j = k) :
    lastIndex? p items = some k := by
  obtain ⟨last, hlast, _⟩ := le_of_lastIndex? hitem hp
  obtain ⟨other, hother, hpother⟩ := exists_of_lastIndex? hlast
  rw [hlast, hunique last other hother hpother]

theorem mem_of_findLast? {α : Type} {p : α → Bool} {items : List α} {item : α}
    (h : findLast? p items = some item) : item ∈ items ∧ p item = true := by
  have hmem : item ∈ items.filter p := List.mem_of_getLast? h
  exact List.mem_filter.mp hmem

/-- The last item that satisfies `p` stands at the last position of one. -/
theorem findLast?_eq_bind {α : Type} (p : α → Bool) (items : List α) :
    findLast? p items = (lastIndex? p items).bind (items[·]?) := by
  induction items with
  | nil => rfl
  | cons first items ih =>
      rw [lastIndex?]
      cases hlast : lastIndex? p items with
      | some index =>
          have hfound : findLast? p items = items[index]? := by rw [ih, hlast, Option.bind_some]
          obtain ⟨item, hitem, _⟩ := exists_of_lastIndex? hlast
          rw [hitem] at hfound
          simp only [findLast?] at hfound ⊢
          by_cases hp : p first = true
          · simp [hp, List.getLast?_cons, hfound, hitem]
          · simp [hp, hfound, hitem]
      | none =>
          have hfound : items.filter p = [] := by
            simpa [hlast, findLast?, List.getLast?_eq_none_iff] using ih
          by_cases hp : p first = true
          · simp [findLast?, hp, hfound]
          · simp [findLast?, hp, hfound]

namespace Script

variable {script : Script} {form : Form} {input : Input} {position : Nat}

/-- No two inputs of a script have the same path. -/
def DistinctPaths (script : Script) : Prop := (script.entries.map (·.2.path)).Nodup

instance (script : Script) : Decidable script.DistinctPaths :=
  inferInstanceAs (Decidable (List.Nodup _))

def entriesOf (indexed : Form × Nat) : List (Place × Input) :=
  indexed.1.inputs.zipIdx.map fun (input, j) => (⟨indexed.2, j⟩, input)

theorem entries_eq (script : Script) : script.entries = script.forms.zipIdx.flatMap entriesOf :=
  rfl

theorem exists_form_of_mem_entries {entry : Place × Input} (h : entry ∈ script.entries) :
    ∃ form ∈ script.forms, entry.2 ∈ form.inputs := by
  simp only [entries_eq, List.mem_flatMap, entriesOf, List.mem_map] at h
  obtain ⟨⟨form, i⟩, hform, ⟨input, j⟩, hinput, rfl⟩ := h
  exact ⟨form, List.fst_mem_of_mem_zipIdx hform, List.fst_mem_of_mem_zipIdx hinput⟩

theorem mem_entries_iff {entry : Place × Input} :
    entry ∈ script.entries ↔ ∃ form, script.forms[entry.1.form]? = some form ∧
      form.inputs[entry.1.input]? = some entry.2 := by
  obtain ⟨⟨i, j⟩, input⟩ := entry
  simp only [entries_eq, List.mem_flatMap, entriesOf, List.mem_map, Prod.exists,
    List.mk_mem_zipIdx_iff_getElem?, Prod.mk.injEq, Place.mk.injEq]
  constructor
  · rintro ⟨form, _, hform, _, _, hinput, ⟨rfl, rfl⟩, rfl⟩
    exact ⟨form, hform, hinput⟩
  · rintro ⟨form, hform, hinput⟩
    exact ⟨form, i, hform, input, j, hinput, ⟨rfl, rfl⟩, rfl⟩

theorem exists_form_of_input? {path : String} (h : script.input? path = some input) :
    ∃ form ∈ script.forms, input ∈ form.inputs := by
  simp only [input?, bind, Option.bind_eq_some_iff] at h
  obtain ⟨rank, _, entry, hentry, hinput⟩ := h
  cases hinput
  exact exists_form_of_mem_entries (List.mem_of_getElem? hentry)

theorem exists_form_of_nextInput? {next : Input} (h : script.nextInput? input = some next) :
    ∃ form ∈ script.forms, next ∈ form.inputs := by
  simp only [nextInput?, inputAfter?, bind, Option.bind_eq_some_iff] at h
  obtain ⟨rank, _, _, _, ⟨place, after⟩, hentry, hsame⟩ := h
  split at hsame
  · cases hsame
    exact exists_form_of_mem_entries (List.mem_of_getElem? hentry)
  · cases hsame

/-- The entries of a form stand together, and those behind them belong to later forms. -/
theorem exists_entries_of_mem (hform : form ∈ script.forms) :
    ∃ index front back, script.entries = front ++ entriesOf (form, index) ++ back ∧
      ∀ entry ∈ back, entry.1.form ≠ index := by
  obtain ⟨before, after, hsplit⟩ := List.append_of_mem hform
  refine ⟨before.length, before.zipIdx.flatMap entriesOf,
    (after.zipIdx (before.length + 1)).flatMap entriesOf, ?_, ?_⟩
  · simp [entries_eq, hsplit, List.zipIdx_append, List.append_assoc]
  · intro entry hentry hindex
    simp only [List.mem_flatMap, entriesOf, List.mem_map] at hentry
    obtain ⟨⟨later, i⟩, hlater, _, _, rfl⟩ := hentry
    have hle := List.le_snd_of_mem_zipIdx hlater
    simp only at hindex hle
    omega

/-- The inputs of a form have successive ranks, and each is followed by the next one. -/
theorem exists_rank_base (hform : form ∈ script.forms) :
    ∃ base, ∀ position input, form.inputs[position]? = some input →
      (∃ place, script.entries[base + position]? = some (place, input)) ∧
        script.inputAfter? (base + position) = form.inputs[position + 1]? := by
  obtain ⟨index, front, back, hentries, hback⟩ := exists_entries_of_mem hform
  have hown : ∀ position input, form.inputs[position]? = some input →
      script.entries[front.length + position]? = some (⟨index, position⟩, input) := by
    intro position input hinput
    have hlt : position < form.inputs.length := (List.getElem?_eq_some_iff.mp hinput).1
    rw [hentries, List.append_assoc, List.getElem?_append_right (by omega),
      Nat.add_sub_cancel_left, List.getElem?_append_left (by simpa [entriesOf] using hlt)]
    simp [entriesOf, hinput]
  refine ⟨front.length, fun position input hinput => ⟨⟨_, hown position input hinput⟩, ?_⟩⟩
  simp only [inputAfter?, hown position input hinput, bind, Option.bind_some]
  cases hnext : form.inputs[position + 1]? with
  | some next =>
      have hentry := hown (position + 1) next hnext
      rw [← Nat.add_assoc] at hentry
      simp [hentry]
  | none =>
      cases hentry : script.entries[front.length + position + 1]? with
      | none => rfl
      | some entry =>
          have hlast : form.inputs.length ≤ position + 1 := List.getElem?_eq_none_iff.mp hnext
          have hmem : entry ∈ back := by
            rw [hentries, List.getElem?_append_right (by simp [entriesOf]; omega)] at hentry
            exact List.mem_of_getElem? hentry
          simp [hback entry hmem]

theorem DistinctPaths.rank?_eq (hpaths : script.DistinctPaths) {rank : Nat} {place : Place}
    (hentry : script.entries[rank]? = some (place, input)) :
    script.rank? input.path = some rank := by
  refine lastIndex?_eq_of_unique hentry (by simp) fun other entry hother hpath => ?_
  have hlt : other < (script.entries.map (·.2.path)).length := by
    simpa using (List.getElem?_eq_some_iff.mp hother).1
  apply (List.getElem?_inj hlt hpaths).mp
  simpa [hother, hentry] using hpath

theorem DistinctPaths.input?_eq (hpaths : script.DistinctPaths) (hform : form ∈ script.forms)
    (hinput : form.inputs[position]? = some input) :
    script.input? input.path = some input := by
  obtain ⟨base, hbase⟩ := exists_rank_base hform
  obtain ⟨⟨place, hentry⟩, _⟩ := hbase position input hinput
  simp [input?, hpaths.rank?_eq hentry, hentry]

theorem DistinctPaths.input?_of_mem (hpaths : script.DistinctPaths)
    (hform : form ∈ script.forms) (hinput : input ∈ form.inputs) :
    script.input? input.path = some input := by
  obtain ⟨position, hposition⟩ := List.getElem?_of_mem hinput
  exact hpaths.input?_eq hform hposition

theorem DistinctPaths.eq_of_path_eq (hpaths : script.DistinctPaths)
    (hform : form ∈ script.forms) (hinput : input ∈ form.inputs) {otherForm : Form}
    {other : Input} (hotherForm : otherForm ∈ script.forms) (hother : other ∈ otherForm.inputs)
    (hpath : input.path = other.path) : input = other := by
  have hfound := hpaths.input?_of_mem hform hinput
  rw [hpath, hpaths.input?_of_mem hotherForm hother] at hfound
  exact (Option.some.inj hfound).symm

theorem DistinctPaths.nextInput?_eq (hpaths : script.DistinctPaths) (hform : form ∈ script.forms)
    (hinput : form.inputs[position]? = some input) :
    script.nextInput? input = form.inputs[position + 1]? := by
  obtain ⟨base, hbase⟩ := exists_rank_base hform
  obtain ⟨⟨place, hentry⟩, hafter⟩ := hbase position input hinput
  simp [nextInput?, hpaths.rank?_eq hentry, hafter]

/-- An input is declared at one place only. -/
theorem DistinctPaths.form_and_position_eq (hpaths : script.DistinctPaths)
    (hform : form ∈ script.forms) (hinput : form.inputs[position]? = some input)
    {otherForm : Form} {other : Nat} {otherInput : Input} (hotherForm : otherForm ∈ script.forms)
    (hother : otherForm.inputs[other]? = some otherInput) (hpath : input.path = otherInput.path) :
    form = otherForm ∧ position = other := by
  obtain ⟨i, hi⟩ := List.getElem?_of_mem hform
  obtain ⟨k, hk⟩ := List.getElem?_of_mem hotherForm
  have hentry : (⟨i, position⟩, input) ∈ script.entries := mem_entries_iff.mpr ⟨form, hi, hinput⟩
  have hotherEntry : (⟨k, other⟩, otherInput) ∈ script.entries :=
    mem_entries_iff.mpr ⟨otherForm, hk, hother⟩
  have hsame := List.inj_on_of_nodup_map hpaths hentry hotherEntry hpath
  simp only [Prod.mk.injEq, Place.mk.injEq] at hsame
  obtain ⟨⟨rfl, rfl⟩, _⟩ := hsame
  exact ⟨Option.some.inj (hi.symm.trans hk), rfl⟩

theorem DistinctPaths.position_eq (hpaths : script.DistinctPaths) (hform : form ∈ script.forms)
    {other : Nat} {otherInput : Input} (hinput : form.inputs[position]? = some input)
    (hother : form.inputs[other]? = some otherInput) (hpath : input.path = otherInput.path) :
    position = other :=
  (hpaths.form_and_position_eq hform hinput hform hother hpath).2

theorem mem_of_form? {id : String} (h : script.form? id = some form) :
    form ∈ script.forms ∧ form.id = id := by
  simpa using mem_of_findLast? h

theorem form?_id {id : String} (h : script.form? id = some form) :
    script.form? form.id = some form := by
  rw [(mem_of_form? h).2, h]

end Script

end Colloquy
