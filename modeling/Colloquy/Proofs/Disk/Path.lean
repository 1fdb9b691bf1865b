import Colloquy.Disk.Path
import Colloquy.Proofs.Disk.Tree

/-!
Paths that lead on from a directory by names.  Their steps are those of the directory and then the
names, so they are told apart, and ordered, by the names alone.
-/

namespace Colloquy

/-- A separator cuts what stands before it from what comes after it. -/
theorem Text.pieces_append_sep (sep : Char) (cs rest : List Char) :
    pieces sep (cs ++ sep :: rest) = pieces sep cs ++ pieces sep rest := by
  induction cs with
  | nil => simp [pieces]
  | cons c cs ih =>
      by_cases hc : c = sep
      · simp [pieces, hc, ih]
      · cases hcs : pieces sep cs with
        | nil => exact absurd hcs (pieces_ne_nil sep cs)
        | cons first others => simp [pieces, hc, ih, hcs]

theorem append_lt_append_iff {α : Type} [LT α] [Std.Irrefl (α := α) (· < ·)]
    (front first second : List α) : front ++ first < front ++ second ↔ first < second := by
  induction front with
  | nil => rfl
  | cons a front ih =>
      rw [List.cons_append, List.cons_append, List.cons_lt_cons_iff, ih]
      simp [Std.Irrefl.irrefl]

namespace Path

variable {path name : String} {names : List String}

def stepsIn (cs : List Char) : List String :=
  ((Text.pieces '/' cs).filter (· ≠ [])).map String.ofList

theorem steps_ofText (written : String) : (ofText written).steps = stepsIn written.toList := rfl

theorem stepsIn_append_slash (cs rest : List Char) :
    stepsIn (cs ++ '/' :: rest) = stepsIn cs ++ stepsIn rest := by
  simp [stepsIn, Text.pieces_append_sep]

theorem stepsIn_of_isEntryName (h : IsEntryName name) : stepsIn name.toList = [name] := by
  have hne : name.toList ≠ [] := fun hnil => h.ne_empty (String.toList_eq_nil_iff.mp hnil)
  simp [stepsIn, Text.pieces_of_not_mem h.slash_not_mem, hne]

theorem steps_entry (h : IsEntryName name) :
    (ofText (entry path name)).steps = (ofText path).steps ++ [name] := by
  have hname := stepsIn_of_isEntryName h
  rw [steps_ofText, steps_ofText, entry]
  split
  · next hends =>
    rw [String.toList_append]
    rcases hends with rfl | hslash
    · exact hname
    · obtain ⟨front, hfront⟩ := List.getLast?_eq_some_iff.mp hslash
      rw [hfront, List.append_assoc, List.singleton_append, stepsIn_append_slash, hname,
        stepsIn_append_slash]
      simp [stepsIn, Text.pieces]
  · rw [String.toList_append, String.toList_append, List.append_assoc]
    exact (stepsIn_append_slash path.toList name.toList).trans (hname ▸ rfl)

/-- The path starts at the root. -/
def IsAbsolute (path : String) : Prop := (ofText path).absolute = true

theorem isAbsolute_iff : IsAbsolute path ↔ path.toList.head? = some '/' := by
  simp [IsAbsolute, ofText]

theorem isAbsolute_entry (h : IsAbsolute path) (name : String) : IsAbsolute (entry path name) := by
  rw [isAbsolute_iff] at h ⊢
  have hhead : ∀ more, (path.toList ++ more).head? = some '/' := fun more => by simp [h]
  unfold entry
  split
  · rw [String.toList_append]
    exact hhead _
  · rw [String.append_assoc, String.toList_append]
    exact hhead _

theorem leading_of_isAbsolute (h : IsAbsolute path) :
    (ofText path).leading = (ofText path).steps.filter (· ≠ ".") := by
  unfold leading
  cases (ofText path).steps with
  | nil => rfl
  | cons first rest => exact if_pos h

theorem leading_entry (h : IsAbsolute path) (hname : IsEntryName name) :
    (ofText (entry path name)).leading = (ofText path).leading ++ [name] := by
  rw [leading_of_isAbsolute h, leading_of_isAbsolute (isAbsolute_entry h name), steps_entry hname,
    List.filter_append]
  simp [hname.ne_dot]

theorem leading_below (h : IsAbsolute path) (hnames : ∀ name ∈ names, IsEntryName name) :
    (ofText (below path names)).leading = (ofText path).leading ++ names := by
  induction names generalizing path with
  | nil => exact (List.append_nil _).symm
  | cons name names ih =>
      obtain ⟨hname, hrest⟩ := List.forall_mem_cons.mp hnames
      calc (ofText (below path (name :: names))).leading
          = (ofText (below (entry path name) names)).leading := rfl
        _ = (ofText path).leading ++ [name] ++ names := by
            rw [ih (isAbsolute_entry h name) hrest, leading_entry h hname]
        _ = (ofText path).leading ++ name :: names := by
            rw [List.append_assoc, List.singleton_append]

/-- Paths compare step by step. -/
def Before (path other : String) : Prop := (ofText path).leading < (ofText other).leading

theorem before_below_iff {others : List String} (h : IsAbsolute path)
    (hnames : ∀ name ∈ names, IsEntryName name) (hothers : ∀ name ∈ others, IsEntryName name) :
    Before (below path names) (below path others) ↔ names < others := by
  rw [Before, leading_below h hnames, leading_below h hothers, append_lt_append_iff]

theorem below_append (path : String) (names more : List String) :
    below path (names ++ more) = below (below path names) more := List.foldl_append

theorem size_add_size_le_entry (path name : String) :
    path.utf8ByteSize + name.utf8ByteSize ≤ (entry path name).utf8ByteSize := by
  unfold entry
  split
  · exact Nat.le_of_eq (String.utf8ByteSize_append ..).symm
  · rw [String.utf8ByteSize_append, String.utf8ByteSize_append]
    omega

theorem size_le_below (path : String) (names : List String) :
    path.utf8ByteSize ≤ (below path names).utf8ByteSize := by
  induction names generalizing path with
  | nil => exact Nat.le_refl _
  | cons name names ih =>
      have hentry := size_add_size_le_entry path name
      exact Nat.le_trans (by omega) (ih (entry path name))

theorem size_below_take_le (path : String) (names : List String) {count later : Nat}
    (h : count ≤ later) :
    (below path (names.take count)).utf8ByteSize ≤
      (below path (names.take later)).utf8ByteSize := by
  have hsplit : names.take later = names.take count ++ (names.take later).drop count := by
    conv_lhs => rw [← List.take_append_drop count (names.take later)]
    rw [List.take_take, Nat.min_eq_left h]
  rw [hsplit, below_append]
  exact size_le_below _ _

/-- A name ends the path of its entry. -/
theorem suffix_entry (path name : String) : name.toList <:+ (entry path name).toList := by
  unfold entry
  split <;> rw [String.toList_append] <;> exact List.suffix_append _ _

/-!
Slashes at the end of a path, which lead no further.
-/

def slashes (count : Nat) : String := .ofList (List.replicate count '/')

@[simp] theorem toList_slashes (count : Nat) : (slashes count).toList = List.replicate count '/' :=
  String.toList_ofList

theorem slashes_succ (count : Nat) : slashes (count + 1) = "/" ++ slashes count := by
  apply String.toList_inj.mp
  simp [List.replicate_succ]

@[simp] theorem size_slashes (count : Nat) : (slashes count).utf8ByteSize = count := by
  induction count with
  | zero => rfl
  | succ count ih =>
      rw [slashes_succ, String.utf8ByteSize_append, ih, Nat.add_comm]
      rfl

theorem stepsIn_append_slashes (cs : List Char) (count : Nat) :
    stepsIn (cs ++ List.replicate count '/') = stepsIn cs := by
  induction count generalizing cs with
  | zero => simp
  | succ count ih =>
      have hrest : stepsIn (List.replicate count '/') = [] := ih []
      rw [List.replicate_succ, stepsIn_append_slash, hrest, List.append_nil]

theorem ofText_append_slashes (hne : path ≠ "") (count : Nat) :
    ofText (path ++ slashes (count + 1)) = { ofText path with slash := true } := by
  have hhead : (path.toList ++ List.replicate (count + 1) '/').head? = path.toList.head? := by
    cases hchars : path.toList with
    | nil => exact absurd (String.toList_eq_nil_iff.mp hchars) hne
    | cons c cs => rfl
  have hsteps := stepsIn_append_slashes path.toList (count + 1)
  unfold stepsIn at hsteps
  simp only [ofText, String.toList_append, toList_slashes, hhead, hsteps]
  simp [List.replicate_succ']

end Path

namespace Disk

variable {disk : Disk} {written : String} {path : Path} {entries : List (String × Node)}

theorem path_eq_ok_iff : Disk.path written = .ok path ↔
    '\x00' ∉ written.toList ∧ written ≠ "" ∧ written.utf8ByteSize < pathLimit ∧
      Path.ofText written = path := by
  unfold Disk.path
  split
  · next hnul => simp [hnul]
  · next hnul =>
    split
    · next hempty => simp [hempty]
    · next hne =>
      split
      · next hlong => simp [Nat.not_lt.mpr hlong]
      · next hshort => simp [hnul, hne, Nat.not_le.mp hshort]

theorem find_eq_ok_iff {node : Node} : disk.find written = .ok node ↔
    ∃ path place, Disk.path written = .ok path ∧
      disk.follow (disk.start path) (path.steps ++ if path.slash then ["."] else []) =
        .ok place ∧
      disk.root.find? place = some node := by
  unfold find
  cases Disk.path written with
  | error fault => simp [bind, Except.bind]
  | ok path =>
      cases hfollow :
          disk.follow (disk.start path) (path.steps ++ if path.slash then ["."] else []) with
      | error fault => simp [bind, Except.bind, hfollow]
      | ok place =>
          cases hnode : disk.root.find? place with
          | none => simp [bind, Except.bind, hfollow, hnode, throw, throwThe, MonadExceptOf.throw]
          | some found => simp [bind, Except.bind, hfollow, hnode, pure, Except.pure]

theorem find_append_slashes (h : disk.find written = .ok (.directory entries)) {count : Nat}
    (hsize : written.utf8ByteSize + count < pathLimit) :
    disk.find (written ++ Path.slashes count) = .ok (.directory entries) := by
  cases count with
  | zero => simpa [Path.slashes] using h
  | succ count =>
      obtain ⟨path, place, hpath, hfollow, hplace⟩ := find_eq_ok_iff.mp h
      obtain ⟨hnul, hne, _, rfl⟩ := path_eq_ok_iff.mp hpath
      have hend : disk.follow (disk.start (Path.ofText written))
          ((Path.ofText written).steps ++ ["."]) = .ok place := by
        cases hslash : (Path.ofText written).slash with
        | true => simpa [hslash] using hfollow
        | false =>
            rw [follow_append (by simpa [hslash] using hfollow)]
            simp [follow, hplace]
      refine find_eq_ok_iff.mpr ⟨_, place, path_eq_ok_iff.mpr ⟨?_, ?_, ?_, rfl⟩, ?_, hplace⟩
      · simp [hnul]
      · simp [hne]
      · rwa [String.utf8ByteSize_append, Path.size_slashes]
      · rw [Path.ofText_append_slashes hne]
        exact hend

end Disk

end Colloquy
