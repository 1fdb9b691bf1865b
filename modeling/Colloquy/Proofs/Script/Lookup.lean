import Colloquy.Proofs.Dict
import Colloquy.Proofs.Script.Ascent
import Colloquy.Proofs.Script.Places

/-!
Which declaration a look-up finds where several share an identifier or a path.  It is the last one,
just as if all of them had been entered into an index one after another.  Going on from an input to
the next one therefore leads on among the places of declaration, whatever is declared twice.
-/

namespace Colloquy

/-- The last item of a list that has a property. -/
structure IsLast {α : Type} (p : α → Prop) (items : List α) (item : α) : Prop where
  holds : p item
  latest : ∃ front back, items = front ++ item :: back ∧ ∀ later ∈ back, ¬ p later

section

variable {α β : Type} {p : α → Bool} {items : List α}

theorem findLast?_eq_some_iff {item : α} :
    findLast? p items = some item ↔ IsLast (p · = true) items item := by
  unfold findLast?
  constructor
  · intro h
    obtain ⟨found, hfound⟩ := List.getLast?_eq_some_iff.mp h
    obtain ⟨front, rest, rfl, _, hrest⟩ := List.filter_eq_append_iff.mp hfound
    obtain ⟨middle, back, rfl, _, hp, hback⟩ := List.filter_eq_cons_iff.mp hrest
    refine ⟨hp, front ++ middle, back, (List.append_assoc ..).symm, fun later hlater => ?_⟩
    exact List.filter_eq_nil_iff.mp hback later hlater
  · rintro ⟨hp, front, back, rfl, hback⟩
    rw [List.filter_append, List.filter_cons_of_pos hp, List.filter_eq_nil_iff.mpr hback,
      List.getLast?_append]
    rfl

theorem findLast?_eq_none_iff : findLast? p items = none ↔ ∀ item ∈ items, ¬ p item = true := by
  rw [findLast?, List.getLast?_eq_none_iff, List.filter_eq_nil_iff]

theorem findLast?_concat (p : α → Bool) (items : List α) (item : α) :
    findLast? p (items ++ [item]) = if p item then some item else findLast? p items := by
  by_cases hp : p item = true <;> simp [findLast?, hp]

theorem findLast?_map (f : β → α) (items : List β) :
    findLast? p (items.map f) = (findLast? (p ∘ f) items).map f := by
  rw [findLast?, findLast?, List.filter_map, List.getLast?_map]

theorem Dict.get?_ofList_map (key : β → String) (value : β → α) (items : List β) (name : String) :
    (Dict.ofList (items.map fun item => (key item, value item))).get? name =
      (findLast? (key · = name) items).map value := by
  induction items using List.reverseRecOn with
  | nil => rfl
  | append_singleton items item ih =>
      rw [List.map_append, List.map_singleton, Dict.ofList_append_singleton, Dict.get?_insert, ih,
        findLast?_concat]
      by_cases hkey : key item = name <;> simp [hkey]

/-- The positions of items by their keys, entered one after another. -/
def indexOf (key : α → String) (items : List α) : Dict Nat :=
  .ofList (items.zipIdx.map fun (item, position) => (key item, position))

theorem findLast?_eq_indexOf (key : α → String) (items : List α) (name : String) :
    findLast? (key · = name) items = ((indexOf key items).get? name).bind (items[·]?) := by
  have hitems := findLast?_map (p := (key · = name)) Prod.fst items.zipIdx
  rw [List.zipIdx_map_fst] at hitems
  rw [indexOf, Dict.get?_ofList_map (key ·.1) Prod.snd, hitems]
  change (findLast? ((key · = name) ∘ Prod.fst) items.zipIdx).map Prod.fst =
    ((findLast? ((key · = name) ∘ Prod.fst) items.zipIdx).map Prod.snd).bind (items[·]?)
  cases hfound : findLast? ((key · = name) ∘ Prod.fst) items.zipIdx with
  | none => rfl
  | some entry =>
      have hat := List.mem_zipIdx_iff_getElem?.mp (mem_of_findLast? hfound).1
      simp [hat]

/-- A look-up by key finds the last item with the key and nothing if there is none, as an index of
all items would. -/
structure LastWins (items : List α) (key : α → String) (find? : String → Option α) : Prop where
  found : ∀ name item, find? name = some item ↔ IsLast (key · = name) items item
  missing : ∀ name, find? name = none ↔ ∀ item ∈ items, key item ≠ name
  indexed : ∀ name, find? name = ((indexOf key items).get? name).bind (items[·]?)

theorem lastWins_findLast? (items : List α) (key : α → String) :
    LastWins items key fun name => findLast? (key · = name) items where
  found name item := by simp [findLast?_eq_some_iff]
  missing name := by simp [findLast?_eq_none_iff]
  indexed := findLast?_eq_indexOf key items

end

namespace Place.Before

variable {first second third : Place}

theorem trans (h : first.Before second) (h' : second.Before third) : first.Before third := by
  unfold Place.Before at *
  omega

theorem asymm (h : first.Before second) : ¬ second.Before first := by
  unfold Place.Before at *
  omega

theorem ne (h : first.Before second) : first ≠ second := by
  rintro rfl
  exact h.asymm h

end Place.Before

namespace Place

/-- The place right behind another one in its form. -/
def next (place : Place) : Place := ⟨place.form, place.input + 1⟩

theorem before_next (place : Place) : place.Before place.next := .inr ⟨rfl, Nat.lt_succ_self _⟩

/-- No place lies between one and the next. -/
theorem Before.not_before_next {place between : Place} (h : place.Before between) :
    ¬ between.Before place.next := by
  unfold Before next at *
  dsimp only
  omega

end Place

namespace Script

variable {script : Script} {path : String} {place : Place} {input : Input}

/-- The input that is declared at a place. -/
def declared? (script : Script) (place : Place) : Option Input :=
  script.forms[place.form]?.bind (·.inputs[place.input]?)

/-- The place of the last declaration of a path. -/
structure IsLastPlace (script : Script) (path : String) (place : Place) : Prop where
  declares : ∃ input, script.declared? place = some input ∧ input.path = path
  latest : ∀ other input, script.declared? other = some input → input.path = path →
    other = place ∨ other.Before place

/-- The places of inputs by their paths, entered form by form and input by input. -/
def inputIndex (script : Script) : Dict Place :=
  script.forms.zipIdx.foldl (fun index (form, i) =>
    form.inputs.zipIdx.foldl (fun index (input, j) => index.insert input.path ⟨i, j⟩) index) ∅

theorem mem_entries_iff_declared? :
    (place, input) ∈ script.entries ↔ script.declared? place = some input := by
  rw [mem_entries_iff, declared?, Option.bind_eq_some_iff]

theorem rank_lt_of_before {first second : Nat} {entry later : Place × Input}
    (hentry : script.entries[first]? = some entry) (hlater : script.entries[second]? = some later)
    (hbefore : entry.1.Before later.1) : first < second := by
  rcases Nat.lt_trichotomy first second with hlt | heq | hgt
  · exact hlt
  · subst heq
    obtain rfl := Option.some.inj (hentry.symm.trans hlater)
    exact absurd rfl hbefore.ne
  · exact absurd (before_of_rank_lt hlater hentry hgt) hbefore.asymm

theorem place?_eq_findLast? (script : Script) (path : String) :
    script.place? path = (findLast? (·.2.path = path) script.entries).map Prod.fst := by
  rw [findLast?_eq_bind, place?, rank?]
  cases lastIndex? (fun entry => decide (entry.2.path = path)) script.entries with
  | none => rfl
  | some rank => cases h : script.entries[rank]? <;> simp [h]

theorem get?_inputIndex (script : Script) (path : String) :
    script.inputIndex.get? path = script.place? path := by
  have hindex : script.inputIndex =
      .ofList (script.entries.map fun entry => (entry.2.path, entry.1)) := by
    simp only [inputIndex, Dict.ofList, entries, List.foldl_map, List.foldl_flatMap]
  rw [hindex, Dict.get?_ofList_map, place?_eq_findLast?]

theorem isLastPlace_of_place? (h : script.place? path = some place) :
    script.IsLastPlace path place := by
  simp only [place?, bind, Option.bind_eq_some_iff] at h
  obtain ⟨rank, hrank, entry, hentry, hplace⟩ := h
  obtain rfl : entry.1 = place := Option.some.inj hplace
  obtain ⟨item, hitem, hpath⟩ := exists_of_lastIndex? hrank
  obtain rfl := Option.some.inj (hentry.symm.trans hitem)
  refine ⟨⟨entry.2, ?_, by simpa using hpath⟩, fun other input hother hinput => ?_⟩
  · exact mem_entries_iff_declared?.mp (List.mem_of_getElem? hentry)
  · obtain ⟨index, hindex⟩ := List.getElem?_of_mem (mem_entries_iff_declared?.mpr hother)
    obtain ⟨last, hlast, hle⟩ := le_of_lastIndex? (p := (·.2.path = path)) hindex (by simp [hinput])
    obtain rfl : rank = last := Option.some.inj (hrank.symm.trans hlast)
    rcases Nat.lt_or_eq_of_le hle with hlt | heq
    · exact .inr (before_of_rank_lt hindex hentry hlt)
    · subst heq
      exact .inl (congrArg Prod.fst (Option.some.inj (hindex.symm.trans hentry)))

theorem IsLastPlace.eq {other : Place} (h : script.IsLastPlace path place)
    (hother : script.IsLastPlace path other) : place = other := by
  obtain ⟨input, hdeclared, hpath⟩ := h.declares
  obtain ⟨input', hdeclared', hpath'⟩ := hother.declares
  rcases hother.latest place input hdeclared hpath with heq | hbefore
  · exact heq
  · rcases h.latest other input' hdeclared' hpath' with heq | hbefore'
    · exact heq.symm
    · exact absurd hbefore hbefore'.asymm

theorem place?_eq_none_iff : script.place? path = none ↔
    ∀ place input, script.declared? place = some input → input.path ≠ path := by
  rw [place?_eq_findLast?, Option.map_eq_none_iff, findLast?_eq_none_iff]
  simp [mem_entries_iff_declared?]

theorem place?_eq_some_iff : script.place? path = some place ↔ script.IsLastPlace path place := by
  refine ⟨isLastPlace_of_place?, fun h => ?_⟩
  cases hplace : script.place? path with
  | none =>
      obtain ⟨input, hdeclared, hpath⟩ := h.declares
      exact absurd hpath (place?_eq_none_iff.mp hplace place input hdeclared)
  | some other => rw [(isLastPlace_of_place? hplace).eq h]

theorem input?_eq_bind_declared? (script : Script) (path : String) :
    script.input? path = (script.place? path).bind script.declared? := by
  rw [place?, input?]
  cases hrank : script.rank? path with
  | none => rfl
  | some rank =>
      obtain ⟨entry, hentry, _⟩ := exists_of_lastIndex? hrank
      have hdeclared := mem_entries_iff_declared?.mp (List.mem_of_getElem? hentry)
      simp [hentry, hdeclared]

/-- The inputs of a form are declared at all places up to the last one. -/
theorem exists_declared?_next {later : Place} (hlater : script.declared? later = some input)
    (hform : later.form = place.form) (hlt : place.input < later.input) :
    ∃ next, script.declared? place.next = some next := by
  obtain ⟨form, hat, hinput⟩ := Option.bind_eq_some_iff.mp hlater
  have hlength := (List.getElem?_eq_some_iff.mp hinput).1
  have hnext : place.input + 1 < form.inputs.length := Nat.lt_of_le_of_lt hlt hlength
  rw [hform] at hat
  exact ⟨form.inputs[place.input + 1], by simp [declared?, Place.next, hat, hnext]⟩

theorem getElem?_next {rank : Nat} {next : Input}
    (hentry : script.entries[rank]? = some (place, input))
    (hnext : script.declared? place.next = some next) :
    script.entries[rank + 1]? = some (place.next, next) := by
  obtain ⟨later, hlater⟩ := List.getElem?_of_mem (mem_entries_iff_declared?.mpr hnext)
  have hlt : rank < later := rank_lt_of_before hentry hlater place.before_next
  rcases Nat.lt_or_eq_of_le (Nat.succ_le_of_lt hlt) with hgap | heq
  · obtain ⟨hlength, _⟩ := List.getElem?_eq_some_iff.mp hlater
    have hbetween : script.entries[rank + 1]? = some script.entries[rank + 1] :=
      List.getElem?_eq_getElem (Nat.lt_trans hgap hlength)
    have hbefore := before_of_rank_lt hentry hbetween (Nat.lt_succ_self rank)
    exact absurd (before_of_rank_lt hbetween hlater hgap) hbefore.not_before_next
  · obtain rfl : rank + 1 = later := heq
    exact hlater

theorem inputAfter?_eq_declared? {rank : Nat}
    (hentry : script.entries[rank]? = some (place, input)) :
    script.inputAfter? rank = script.declared? place.next := by
  cases hnext : script.declared? place.next with
  | some next => simp [inputAfter?, hentry, getElem?_next hentry hnext, Place.next]
  | none =>
      cases hlater : script.entries[rank + 1]? with
      | none => simp [inputAfter?, hentry, hlater]
      | some later =>
          have hform : later.1.form ≠ place.form := by
            intro hform
            rcases before_of_rank_lt hentry hlater (Nat.lt_succ_self rank) with hlt | ⟨_, hlt⟩
            · exact absurd hform (Nat.ne_of_gt hlt)
            · have hdeclared := mem_entries_iff_declared?.mp (List.mem_of_getElem? hlater)
              obtain ⟨next, hsome⟩ := exists_declared?_next hdeclared hform hlt
              rw [hnext] at hsome
              cases hsome
          simp [inputAfter?, hentry, hlater, hform]

theorem nextInput?_eq_declared? (script : Script) (input : Input) :
    script.nextInput? input =
      (script.place? input.path).bind fun place => script.declared? place.next := by
  rw [nextInput?]
  cases hrank : script.rank? input.path with
  | none => simp [place?, hrank]
  | some rank =>
      obtain ⟨⟨place, _⟩, hentry, hplace⟩ := place?_of_rank? hrank
      simp [hplace, inputAfter?_eq_declared? hentry]

/-- Each path's last place comes before that of the other one. -/
def Precedes (script : Script) (earlier later : Input) : Prop :=
  ∃ place next, script.place? earlier.path = some place ∧ script.place? later.path = some next ∧
    place.Before next

/-- Going on leads ahead, even if the path of the next input is declared again further on. -/
theorem rank_lt_of_nextInput? {next : Input} (h : script.nextInput? input = some next) :
    ∃ rank later, script.rank? input.path = some rank ∧ script.rank? next.path = some later ∧
      rank < later := by
  obtain ⟨rank, hrank, hafter⟩ := Option.bind_eq_some_iff.mp h
  obtain ⟨later, hlater, hlt⟩ := rank?_inputAfter hafter
  exact ⟨rank, later, hrank, hlater, hlt⟩

theorem precedes_of_nextInput? {next : Input} (h : script.nextInput? input = some next) :
    script.Precedes input next := by
  obtain ⟨rank, later, hrank, hlater, hlt⟩ := rank_lt_of_nextInput? h
  obtain ⟨entry, hentry, hplace⟩ := place?_of_rank? hrank
  obtain ⟨entry', hentry', hplace'⟩ := place?_of_rank? hlater
  exact ⟨_, _, hplace, hplace', before_of_rank_lt hentry hentry' hlt⟩

theorem Precedes.trans {first second third : Input} (h : script.Precedes first second)
    (h' : script.Precedes second third) : script.Precedes first third := by
  obtain ⟨place, middle, hplace, hmiddle, hbefore⟩ := h
  obtain ⟨middle', last, hmiddle', hlast, hbefore'⟩ := h'
  obtain rfl := Option.some.inj (hmiddle.symm.trans hmiddle')
  exact ⟨place, last, hplace, hlast, hbefore.trans hbefore'⟩

theorem Precedes.path_ne {first second : Input} (h : script.Precedes first second) :
    first.path ≠ second.path := by
  obtain ⟨place, next, hplace, hnext, hbefore⟩ := h
  intro hpath
  rw [hpath, hnext] at hplace
  exact hbefore.ne (Option.some.inj hplace).symm

instance (script : Script) : Trans script.Precedes script.Precedes script.Precedes :=
  ⟨Precedes.trans⟩

/-- A way from input to input, each of them the next one after that before it. -/
abbrev Trail (script : Script) (inputs : List Input) : Prop :=
  inputs.IsChain fun input next => script.nextInput? input = some next

theorem Trail.pairwise {inputs : List Input} (h : script.Trail inputs) :
    inputs.Pairwise script.Precedes :=
  List.isChain_iff_pairwise.mp (h.imp fun _ _ => precedes_of_nextInput?)

theorem Trail.nodup {inputs : List Input} (h : script.Trail inputs) :
    (inputs.map Input.path).Nodup :=
  List.pairwise_map.mpr (h.pairwise.imp Precedes.path_ne)

theorem Trail.ascends {inputs : List Input} {rank : Nat}
    (hrank : script.rank? input.path = some rank) (h : script.Trail (input :: inputs)) :
    script.Ascends rank ((input :: inputs).map Input.path) := by
  induction inputs generalizing input rank with
  | nil => exact .move hrank (Nat.le_refl rank) .done
  | cons next inputs ih =>
      obtain ⟨hnext, hrest⟩ := List.isChain_cons_cons.mp h
      obtain ⟨rank', later, hrank', hlater, hlt⟩ := rank_lt_of_nextInput? hnext
      obtain rfl := Option.some.inj (hrank.symm.trans hrank')
      exact .move hrank (Nat.le_refl rank) ((ih hlater hrest).mono hlt)

/-- Where there is a next input, the way is no longer than the list of all inputs. -/
theorem Trail.length_le {inputs : List Input} (h : script.Trail inputs) :
    inputs.length ≤ max 1 script.entries.length := by
  match inputs, h with
  | [], _ => exact Nat.zero_le _
  | [_], _ => exact Nat.le_max_left _ _
  | input :: next :: inputs, h =>
      obtain ⟨rank, _, hrank, _, _⟩ := rank_lt_of_nextInput? (List.isChain_cons_cons.mp h).1
      have hlength := (Trail.ascends hrank h).length_le
      rw [List.length_map] at hlength
      omega

theorem length_entries (script : Script) :
    script.entries.length = (script.forms.flatMap Form.inputs).length := by
  have hlengths : script.forms.zipIdx.map (fun indexed => (entriesOf indexed).length) =
      (script.forms.zipIdx.map Prod.fst).map (·.inputs.length) := by
    rw [List.map_map]
    exact List.map_congr_left fun indexed _ => by simp [entriesOf]
  rw [entries_eq, List.length_flatMap, List.length_flatMap, hlengths, List.zipIdx_map_fst]

/-- How inputs are looked up by their paths: the last place of a path counts. -/
structure FindsLastPlace (script : Script) (path : String) : Prop where
  place : ∀ place, script.place? path = some place ↔ script.IsLastPlace path place
  missing : script.place? path = none ↔
    ∀ place input, script.declared? place = some input → input.path ≠ path
  indexed : script.inputIndex.get? path = script.place? path
  input : script.input? path = (script.place? path).bind script.declared?

theorem lookups_find_last (script : Script) :
    LastWins script.flows Flow.id script.flow? ∧ LastWins script.forms Form.id script.form? ∧
      (∀ flow : Flow, LastWins flow.links Link.id flow.link?) ∧
      (∀ path, script.FindsLastPlace path) ∧
      (∀ input, script.nextInput? input =
        (script.place? input.path).bind fun place => script.declared? place.next) ∧
      ∀ inputs, script.Trail inputs →
        inputs.Pairwise script.Precedes ∧ (inputs.map Input.path).Nodup ∧
          inputs.length ≤ max 1 (script.forms.flatMap Form.inputs).length := by
  refine ⟨lastWins_findLast? _ _, lastWins_findLast? _ _, fun flow => lastWins_findLast? _ _,
    fun path => ⟨fun _ => place?_eq_some_iff, place?_eq_none_iff, get?_inputIndex script path,
      input?_eq_bind_declared? script path⟩,
    nextInput?_eq_declared? script, fun inputs htrail => ?_⟩
  rw [← length_entries]
  exact ⟨htrail.pairwise, htrail.nodup, htrail.length_le⟩

def doubledInput (id title : String) : Input :=
  ⟨"f", inputPath "f" id, id, title, .text, [], "", none⟩

/-- A script in which two flows and two forms share an identifier, and two inputs a path. -/
def doubledScript : Script where
  id := "bot"
  version := ""
  configs := ∅
  flows := [⟨"main", "First", []⟩, ⟨"main", "Last", []⟩]
  forms := [⟨"f", "First", "", "", "post", [doubledInput "a" "A", doubledInput "b" "B"]⟩,
    ⟨"f", "Last", "", "", "post", [doubledInput "b" "B again", doubledInput "c" "C"]⟩]
  templates := []

/-- From the first `b` the way leads on behind the last one. -/
theorem lookups_find_last_doubled :
    (∀ flow, doubledScript.flow? "main" = some flow ↔
      IsLast (·.id = "main") doubledScript.flows flow) ∧
    doubledScript.IsLastPlace "f/b" ⟨1, 0⟩ ∧
    doubledScript.Trail [doubledInput "a" "A", doubledInput "b" "B", doubledInput "c" "C"] ∧
    [doubledInput "a" "A", doubledInput "b" "B", doubledInput "c" "C"].Pairwise
      doubledScript.Precedes ∧
    3 ≤ max 1 (doubledScript.forms.flatMap Form.inputs).length := by
  obtain ⟨hflows, _, _, hpaths, _, htrails⟩ := lookups_find_last doubledScript
  have htrail : doubledScript.Trail
      [doubledInput "a" "A", doubledInput "b" "B", doubledInput "c" "C"] := by
    decide
  have hplace : doubledScript.place? "f/b" = some ⟨1, 0⟩ := by decide
  obtain ⟨hpairwise, _, hlength⟩ := htrails _ htrail
  exact ⟨hflows.found "main", ((hpaths "f/b").place _).mp hplace, htrail, hpairwise, hlength⟩

end Script

end Colloquy
