import Colloquy.Disk.Basic

/-!
A file that was written can be read back: writing it changes nothing on the way to it.
-/

namespace Colloquy

namespace Node

theorem find?_append (names more : List String) (node : Node) :
    find? (names ++ more) node = (find? names node).bind (find? more) := by
  induction names generalizing node with
  | nil => rfl
  | cons name names ih =>
      cases node with
      | file content => rfl
      | directory entries =>
          cases hlookup : Dict.lookup name entries with
          | none => simp [find?, hlookup]
          | some child => simp [find?, hlookup, ih]

/-- On the way to a directory there are only directories. -/
theorem find?_take_of_directory {place : List String} {node : Node} {entries : List (String × Node)}
    (h : find? place node = some (.directory entries)) (count : Nat) :
    ∃ entries, find? (place.take count) node = some (.directory entries) := by
  rw [← List.take_append_drop count place, find?_append] at h
  obtain ⟨middle, hmiddle, hrest⟩ := Option.bind_eq_some_iff.mp h
  rw [hmiddle]
  cases middle with
  | directory entries => exact ⟨entries, rfl⟩
  | file content =>
      cases hdrop : place.drop count with
      | nil => simp [hdrop, find?] at hrest
      | cons name names => simp [hdrop, find?] at hrest

/-- Putting something where there is no directory keeps all directories and the names in them. -/
theorem find?_put_of_directory {value : Node} {names place : List String} {node : Node}
    {entries : List (String × Node)}
    (htarget : ∀ entries, find? names node ≠ some (.directory entries))
    (h : find? place node = some (.directory entries)) :
    ∃ newer, find? place (put value names node) = some (.directory newer) ∧
      ∀ name, (Dict.lookup name newer).isNone → (Dict.lookup name entries).isNone := by
  induction place generalizing names node with
  | nil =>
      obtain rfl : node = .directory entries := Option.some.inj h
      cases names with
      | nil => exact absurd rfl (htarget entries)
      | cons target targets =>
          refine ⟨_, rfl, fun name hname => ?_⟩
          rw [Dict.lookup_insertEntry] at hname
          split at hname
          · cases hname
          · exact hname
  | cons step steps ih =>
      cases node with
      | file content => cases h
      | directory siblings =>
          obtain ⟨child, hchild, hrest⟩ := Option.bind_eq_some_iff.mp h
          cases names with
          | nil => exact absurd rfl (htarget siblings)
          | cons target targets =>
              simp only [put, find?, Dict.lookup_insertEntry]
              by_cases hstep : target = step
              · subst hstep
                rw [if_pos rfl, hchild, Option.getD_some, Option.bind_some]
                refine ih (fun entries hentries => ?_) hrest
                exact htarget entries (by simpa [find?, hchild] using hentries)
              · rw [if_neg hstep, hchild, Option.bind_some]
                exact ⟨entries, hrest, fun _ hname => hname⟩

end Node

namespace Disk

variable {disk after : Disk} {place steps reached : List String} {step : String}

def enter (disk : Disk) (place : List String) (step : String) : Except DiskFault (List String) :=
  match disk.root.find? place with
  | none => .error .notFound
  | some (.file _) => .error .notDirectory
  | some (.directory entries) =>
    if step = "." then .ok place
    else if step = ".." then .ok place.dropLast
    else if nameLimit < step.utf8ByteSize then .error .nameTooLong
    else if (Dict.lookup step entries).isNone then .error .notFound
    else .ok (place ++ [step])

theorem follow_cons (place : List String) (step : String) (steps : List String) :
    disk.follow place (step :: steps) =
      (disk.enter place step).bind fun reached => disk.follow reached steps := by
  cases hnode : disk.root.find? place with
  | none => simp [follow, enter, hnode, Except.bind]
  | some node =>
      cases node with
      | file content => simp [follow, enter, hnode, Except.bind]
      | directory entries =>
          simp only [follow, enter, hnode]
          split
          · rfl
          · split
            · rfl
            · split
              · rfl
              · split <;> rfl

theorem follow_append (h : disk.follow place steps = .ok reached) (more : List String) :
    disk.follow place (steps ++ more) = disk.follow reached more := by
  induction steps generalizing place with
  | nil =>
      obtain rfl : place = reached := Except.ok.inj h
      rfl
  | cons step steps ih =>
      rw [follow_cons] at h
      rw [List.cons_append, follow_cons]
      cases hstep : disk.enter place step with
      | error fault =>
          rw [hstep] at h
          cases h
      | ok next =>
          rw [hstep] at h
          exact ih h

/-- All directories are still there, with all the names in them. -/
def Keeps (disk after : Disk) : Prop :=
  ∀ place entries, disk.root.find? place = some (.directory entries) →
    ∃ newer, after.root.find? place = some (.directory newer) ∧
      ∀ name, (Dict.lookup name newer).isNone → (Dict.lookup name entries).isNone

theorem Keeps.enter (h : disk.Keeps after) (hstep : disk.enter place step = .ok reached) :
    after.enter place step = .ok reached := by
  unfold Disk.enter at hstep ⊢
  cases hnode : disk.root.find? place with
  | none => simp [hnode] at hstep
  | some node =>
      cases node with
      | file content => simp [hnode] at hstep
      | directory entries =>
          obtain ⟨newer, hnewer, hnames⟩ := h place entries hnode
          simp only [hnode] at hstep
          simp only [hnewer]
          split at hstep
          · next hdot => rwa [if_pos hdot]
          · next hdot =>
            rw [if_neg hdot]
            split at hstep
            · next hup => rwa [if_pos hup]
            · next hup =>
              rw [if_neg hup]
              split at hstep
              · cases hstep
              · next hlength =>
                rw [if_neg hlength]
                split at hstep
                · cases hstep
                · next hentry => rwa [if_neg fun hnone => hentry (hnames step hnone)]

theorem Keeps.follow (h : disk.Keeps after) (hfollow : disk.follow place steps = .ok reached) :
    after.follow place steps = .ok reached := by
  induction steps generalizing place with
  | nil => exact hfollow
  | cons step steps ih =>
      rw [follow_cons] at hfollow ⊢
      cases hstep : disk.enter place step with
      | error fault =>
          rw [hstep] at hfollow
          cases hfollow
      | ok next =>
          rw [hstep] at hfollow
          rw [h.enter hstep]
          exact ih hfollow

theorem holder_eq_ok {path : Path} (h : disk.holder path = .ok place) :
    disk.follow (disk.start path) path.steps.dropLast = .ok place ∧
      ∃ entries, disk.root.find? place = some (.directory entries) := by
  unfold holder at h
  cases hfollow : disk.follow (disk.start path) path.steps.dropLast with
  | error fault => simp [hfollow, bind, Except.bind] at h
  | ok found =>
      simp only [hfollow, bind, Except.bind] at h
      split at h
      · next entries hfound =>
        obtain rfl : found = place := Except.ok.inj h
        exact ⟨rfl, entries, hfound⟩
      · cases h
      · cases h

/-- Where a file is written. -/
structure Target (disk : Disk) (written : String) (path : Path) (place : List String)
    (name : String) : Prop where
  path_eq : Disk.path written = .ok path
  steps_eq : path.steps = path.steps.dropLast ++ [name]
  follow_eq : disk.follow (disk.start path) path.steps.dropLast = .ok place
  held : ∃ entries, disk.root.find? place = some (.directory entries)
  file : path.slash = false ∧ name ≠ "." ∧ name ≠ ".."
  length : ¬ nameLimit < name.utf8ByteSize
  free : ∀ entries, disk.root.find? (place ++ [name]) ≠ some (.directory entries)

theorem exists_target_of_write {written : String} {content : ByteArray}
    (h : disk.write written content = .ok after) :
    ∃ path place name, disk.Target written path place name ∧
      after = { disk with root := Node.put (.file content) (place ++ [name]) disk.root } := by
  unfold write at h
  cases hpath : Disk.path written with
  | error fault => simp [hpath, bind, Except.bind] at h
  | ok path =>
      cases hholder : disk.holder path with
      | error fault => simp [hpath, hholder, bind, Except.bind] at h
      | ok place =>
          obtain ⟨hfollow, hheld⟩ := holder_eq_ok hholder
          simp only [hpath, hholder, bind, Except.bind] at h
          split at h
          · cases h
          · next name hname =>
            have hsteps : path.steps = path.steps.dropLast ++ [name] := by
              obtain ⟨front, hfront⟩ := List.getLast?_eq_some_iff.mp hname
              rw [hfront, List.dropLast_concat]
            by_cases hdirectory : path.slash = true ∨ name = "." ∨ name = ".."
            · simp [hdirectory, throw, throwThe, MonadExceptOf.throw] at h
            · by_cases hlength : nameLimit < name.utf8ByteSize
              · simp [hdirectory, hlength, throw, throwThe, MonadExceptOf.throw] at h
              · simp only [hdirectory, hlength, if_false] at h
                split at h
                · cases h
                · next hfree =>
                  obtain rfl := Except.ok.inj h
                  rw [not_or, not_or, Bool.not_eq_true] at hdirectory
                  exact ⟨path, place, name, ⟨hpath, hsteps, hfollow, hheld, hdirectory,
                    hlength, hfree⟩, rfl⟩

namespace Target

variable {written name : String} {path : Path}

theorem find?_put (h : disk.Target written path place name) (content : ByteArray) :
    (Node.put (.file content) (place ++ [name]) disk.root).find? (place ++ [name]) =
      some (.file content) := by
  apply Node.find?_put_directory
  intro before hbefore other hother
  obtain ⟨entries, hheld⟩ := h.held
  rcases Nat.lt_or_eq_of_le hbefore with hlt | heq
  · have hle : before ≤ place.length := by
      simp at hlt
      omega
    obtain ⟨entries, hentries⟩ := Node.find?_take_of_directory hheld before
    rw [List.take_append_of_le_length hle, hentries] at hother
    cases hother
  · exact heq

theorem keeps (h : disk.Target written path place name) (content : ByteArray) :
    disk.Keeps { disk with root := Node.put (.file content) (place ++ [name]) disk.root } :=
  fun _ _ hentries => Node.find?_put_of_directory h.free hentries

theorem enter_put (h : disk.Target written path place name) (content : ByteArray) :
    Disk.enter { disk with root := Node.put (.file content) (place ++ [name]) disk.root }
      place name = .ok (place ++ [name]) := by
  obtain ⟨entries, hheld⟩ := h.held
  obtain ⟨newer, hnewer, _⟩ := h.keeps content place entries hheld
  have hput := h.find?_put content
  rw [Node.find?_append, hnewer, Option.bind_some] at hput
  have hentry : ¬ (Dict.lookup name newer).isNone := by
    intro hnone
    rw [Option.isNone_iff_eq_none] at hnone
    simp [Node.find?, hnone] at hput
  simp only [enter, hnewer, if_neg h.file.2.1, if_neg h.file.2.2, if_neg h.length, if_neg hentry]

end Target

theorem find_write {written : String} {content : ByteArray}
    (h : disk.write written content = .ok after) : after.find written = .ok (.file content) := by
  obtain ⟨path, place, name, htarget, rfl⟩ := exists_target_of_write h
  -- The way to the directory is still open, and one more step now leads to the file.
  have hfollow := (htarget.keeps content).follow htarget.follow_eq
  have hlast := follow_append hfollow [name]
  rw [follow_cons, htarget.enter_put, ← htarget.steps_eq] at hlast
  have hplace : Disk.start
      { disk with root := Node.put (.file content) (place ++ [name]) disk.root } path =
        disk.start path := rfl
  simp [find, htarget.path_eq, htarget.file.1, hplace, hlast, htarget.find?_put, Except.bind,
    bind, pure, Except.pure, follow]

theorem readText_save {written content : String} (h : disk.save written content = (.ok (), after)) :
    after.has written = true ∧ after.readText written = .ok content := by
  have hfind : after.find written = .ok (.file content.toUTF8) := by
    unfold save at h
    split at h
    · cases h
    · split at h
      · next hwrite =>
        cases h
        exact find_write hwrite
      · cases h
  refine ⟨by simp [has, hfind, Except.toBool], ?_⟩
  have hvalid : String.fromUTF8? content.toUTF8 = some content := dif_pos content.isValidUTF8
  simp only [readText, read, hfind, hvalid, bind, Except.bind, pure, Except.pure]

end Disk

end Colloquy
