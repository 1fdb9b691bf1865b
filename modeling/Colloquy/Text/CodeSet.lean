/-!
Sets of code points as ranges.  The tables of character properties and the bracketed classes of
patterns are both values of this type.
-/

namespace Colloquy.Text

/-- Closed ranges of code points, ascending and apart. -/
structure CodeSet where
  ranges : Array (Nat × Nat)
deriving DecidableEq, Repr

namespace CodeSet

def lastCode : Nat := 0x10FFFF

def empty : CodeSet := ⟨#[]⟩

instance : EmptyCollection CodeSet := ⟨empty⟩

def full : CodeSet := ⟨#[(0, lastCode)]⟩

private def search (ranges : Array (Nat × Nat)) (n lo hi : Nat) : Bool :=
  if h : lo < hi then
    let mid := (lo + hi) / 2
    if hmid : mid < ranges.size then
      let (first, last) := ranges[mid]
      if n < first then search ranges n lo mid
      else if last < n then search ranges n (mid + 1) hi
      else true
    else false
  else false
termination_by hi - lo
decreasing_by all_goals omega

/-- Membership, by halving the ranges. -/
def containsCode (set : CodeSet) (n : Nat) : Bool :=
  search set.ranges n 0 set.ranges.size

def contains (set : CodeSet) (c : Char) : Bool := set.containsCode c.toNat

/-- Joins ranges that overlap or touch, given in ascending order of their first code points. -/
private def joinSorted : List (Nat × Nat) → List (Nat × Nat)
  | [] => []
  | [r] => [r]
  | (a, b) :: (c, d) :: rest =>
    if c ≤ b + 1 then joinSorted ((a, max b d) :: rest)
    else (a, b) :: joinSorted ((c, d) :: rest)
termination_by rs => rs.length

/-- The set of all code points in any of the ranges, which may come in any order. -/
def ofRanges (ranges : List (Nat × Nat)) : CodeSet :=
  let sorted := (ranges.filter fun r => r.1 ≤ r.2).mergeSort fun r s => r.1 ≤ s.1
  ⟨(joinSorted sorted).toArray⟩

def ofRange (first last : Nat) : CodeSet := ofRanges [(first, last)]

def singleton (c : Char) : CodeSet := ofRange c.toNat c.toNat

def union (s t : CodeSet) : CodeSet := ofRanges (s.ranges.toList ++ t.ranges.toList)

def unions (sets : List CodeSet) : CodeSet := ofRanges (sets.flatMap (·.ranges.toList))

private def gaps (start : Nat) : List (Nat × Nat) → List (Nat × Nat)
  | [] => if start ≤ lastCode then [(start, lastCode)] else []
  | (a, b) :: rest =>
    if start < a then (start, a - 1) :: gaps (b + 1) rest else gaps (b + 1) rest

def compl (s : CodeSet) : CodeSet := ⟨(gaps 0 s.ranges.toList).toArray⟩

def inter (s t : CodeSet) : CodeSet := (s.compl.union t.compl).compl

def diff (s t : CodeSet) : CodeSet := s.inter t.compl

def symmDiff (s t : CodeSet) : CodeSet := (s.diff t).union (t.diff s)

/-!
Tables are written as gaps: decimal numbers between blanks, alternately how many code points are
skipped and how many follow that belong to the set.
-/

private def readNumbers : List Char → Option Nat → List Nat
  | [], none => []
  | [], some n => [n]
  | c :: rest, pending =>
    if c.isDigit then readNumbers rest (some (pending.getD 0 * 10 + (c.toNat - 48)))
    else match pending with
      | none => readNumbers rest none
      | some n => n :: readNumbers rest none

private def rangesOfGaps (start : Nat) : List Nat → List (Nat × Nat)
  | skip :: count :: rest =>
    (start + skip, start + skip + count - 1) :: rangesOfGaps (start + skip + count) rest
  | _ => []

def ofGaps (table : String) : CodeSet :=
  ⟨(rangesOfGaps 0 (readNumbers table.toList none)).toArray⟩

/-!
What a set holds comes from the ranges and the sets that it is made of.
-/

/-- Some range holds the code point. -/
def Covers (ranges : List (Nat × Nat)) (n : Nat) : Prop := ∃ r ∈ ranges, r.1 ≤ n ∧ n ≤ r.2

private theorem covers_of_search {ranges : Array (Nat × Nat)} {n lo hi : Nat}
    (h : search ranges n lo hi = true) : Covers ranges.toList n := by
  fun_induction search ranges n lo hi with
  | case1 lo hi hlt mid hmid first last hrange hbelow ih => exact ih h
  | case2 lo hi hlt mid hmid first last hrange hbelow habove ih => exact ih h
  | case3 lo hi hlt mid hmid first last hrange hbelow habove =>
    exact ⟨(first, last), hrange ▸ Array.getElem_mem_toList hmid, by omega, by omega⟩
  | case4 => cases h
  | case5 => cases h

private theorem covers_of_joinSorted {ranges : List (Nat × Nat)} {n : Nat}
    (h : Covers (joinSorted ranges) n) : Covers ranges n := by
  fun_induction joinSorted ranges with
  | case1 => exact h
  | case2 => exact h
  | case3 a b c d rest hle ih =>
    obtain ⟨r, hr, hfrom, hto⟩ := ih h
    rcases List.mem_cons.1 hr with rfl | hr
    · by_cases hb : n ≤ b
      · exact ⟨(a, b), List.mem_cons_self, hfrom, hb⟩
      · refine ⟨(c, d), List.mem_cons_of_mem _ List.mem_cons_self, ?_, ?_⟩ <;> grind
    · exact ⟨r, List.mem_cons_of_mem _ (List.mem_cons_of_mem _ hr), hfrom, hto⟩
  | case4 a b c d rest hlt ih =>
    obtain ⟨r, hr, hfrom, hto⟩ := h
    rcases List.mem_cons.1 hr with rfl | hr
    · exact ⟨_, List.mem_cons_self, hfrom, hto⟩
    · obtain ⟨s, hs, hsfrom, hsto⟩ := ih ⟨r, hr, hfrom, hto⟩
      exact ⟨s, List.mem_cons_of_mem _ hs, hsfrom, hsto⟩

/-- None of the code points in the ranges belongs to the set. -/
def Avoids (set : CodeSet) (ranges : List (Nat × Nat)) : Prop :=
  ∀ n, Covers ranges n → ¬ Covers set.ranges.toList n

section

variable {ranges : List (Nat × Nat)}

theorem Avoids.contains {set : CodeSet} (h : set.Avoids ranges) {c : Char}
    (hc : Covers ranges c.toNat) : set.contains c = false := by
  rw [← Bool.not_eq_true]
  exact fun hcontains => h c.toNat hc (covers_of_search hcontains)

theorem avoids_unions {sets : List CodeSet} (h : ∀ set ∈ sets, set.Avoids ranges) :
    (unions sets).Avoids ranges := by
  intro n hn hcovers
  obtain ⟨r, hr, hfrom, hto⟩ := covers_of_joinSorted (by simpa [unions, ofRanges] using hcovers)
  obtain ⟨set, hset, hmem⟩ :=
    List.mem_flatMap.1 (List.mem_filter.1 (List.mem_mergeSort.1 hr)).1
  exact h set hset n hn ⟨r, hmem, hfrom, hto⟩

theorem Avoids.union {set other : CodeSet} (h : set.Avoids ranges) (hother : other.Avoids ranges) :
    (set.union other).Avoids ranges := by
  have hunions : set.union other = unions [set, other] := by simp [CodeSet.union, unions]
  rw [hunions]
  exact avoids_unions (by simp [h, hother])

/-- Whether a table tells only ranges that are apart from the others. -/
def tableAvoids (table : List Char) (ranges : List (Nat × Nat)) : Bool :=
  (rangesOfGaps 0 (readNumbers table none)).all fun r =>
    ranges.all fun s => r.2 < s.1 || s.2 < r.1

theorem avoids_of_table {set : CodeSet}
    (h : ∃ table, set = .ofGaps (String.ofList table) ∧ tableAvoids table ranges = true) :
    set.Avoids ranges := by
  obtain ⟨table, rfl, havoids⟩ := h
  rintro n ⟨s, hs, hsfrom, hsto⟩ ⟨r, hr, hfrom, hto⟩
  rw [ofGaps, String.toList_ofList] at hr
  have hapart := List.all_eq_true.1 (List.all_eq_true.1 havoids r hr) s hs
  simp only [Bool.or_eq_true, decide_eq_true_eq] at hapart
  omega

end

end CodeSet

end Colloquy.Text
