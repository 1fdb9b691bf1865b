/-!
Cutting a list of characters at a separator.
-/

namespace Colloquy.Text

/-- What stands before, between and after the occurrences of `sep`: never the empty list. -/
def pieces (sep : Char) : List Char → List (List Char)
  | [] => [[]]
  | c :: rest =>
    if c = sep then [] :: pieces sep rest
    else match pieces sep rest with
      | piece :: others => (c :: piece) :: others
      | [] => [[c]]

theorem pieces_ne_nil (sep : Char) (cs : List Char) : pieces sep cs ≠ [] := by
  cases cs with
  | nil => simp [pieces]
  | cons c rest =>
    rw [pieces]
    split
    · simp
    · split <;> simp

theorem pieces_of_not_mem {sep : Char} {cs : List Char} (h : sep ∉ cs) :
    pieces sep cs = [cs] := by
  induction cs with
  | nil => rfl
  | cons c rest ih =>
    have hc : c ≠ sep := fun heq => h (heq ▸ List.mem_cons_self)
    simp [pieces, hc, ih fun hmem => h (List.mem_cons_of_mem _ hmem)]

theorem pieces_append_cons {sep : Char} {cs : List Char} (h : sep ∉ cs) (rest : List Char) :
    pieces sep (cs ++ sep :: rest) = cs :: pieces sep rest := by
  induction cs with
  | nil => simp [pieces]
  | cons c tail ih =>
    have hc : c ≠ sep := fun heq => h (heq ▸ List.mem_cons_self)
    simp [pieces, hc, ih fun hmem => h (List.mem_cons_of_mem _ hmem)]

/-- What is appended goes on with the last piece. -/
theorem exists_pieces_append (sep : Char) (cs : List Char) :
    ∃ front last, ∀ ds rest, sep ∉ ds →
      pieces sep (cs ++ (ds ++ sep :: rest)) = front ++ (last ++ ds) :: pieces sep rest := by
  induction cs with
  | nil => exact ⟨[], [], fun ds rest h => pieces_append_cons h rest⟩
  | cons c tail ih =>
    obtain ⟨front, last, hpieces⟩ := ih
    by_cases hc : c = sep
    · exact ⟨[] :: front, last, fun ds rest h => by simp [pieces, hc, hpieces ds rest h]⟩
    · cases front with
      | nil => exact ⟨[], c :: last, fun ds rest h => by simp [pieces, hc, hpieces ds rest h]⟩
      | cons first front =>
        exact ⟨(c :: first) :: front, last, fun ds rest h => by
          simp [pieces, hc, hpieces ds rest h]⟩

/-- The part before the first `sep` and the part after it, which is empty without one. -/
def cutAt (sep : Char) (cs : List Char) : List Char × List Char :=
  (cs.takeWhile (· ≠ sep), (cs.dropWhile (· ≠ sep)).drop 1)

theorem cutAt_append_cons {sep : Char} {cs : List Char} (h : sep ∉ cs) (rest : List Char) :
    cutAt sep (cs ++ sep :: rest) = (cs, rest) := by
  induction cs with
  | nil => simp [cutAt]
  | cons c tail ih =>
    have hc : c ≠ sep := fun heq => h (heq ▸ List.mem_cons_self)
    have ih := ih fun hmem => h (List.mem_cons_of_mem _ hmem)
    simp only [cutAt, Prod.mk.injEq] at ih ⊢
    simpa [hc] using ih

/-- Cutting drops nothing but the separator. -/
theorem mem_cutAt {sep c : Char} {cs : List Char} (h : c ∈ cs) (hne : c ≠ sep) :
    c ∈ (cutAt sep cs).1 ∨ c ∈ (cutAt sep cs).2 := by
  induction cs with
  | nil => cases h
  | cons d tail ih =>
    by_cases hd : d = sep
    · have hmem : c ∈ tail := List.mem_of_ne_of_mem (fun heq => hne (heq.trans hd)) h
      simp [cutAt, hd, hmem]
    · rcases List.mem_cons.1 h with rfl | hmem
      · simp [cutAt, hd]
      · simpa [cutAt, hd, or_assoc] using Or.inr (ih hmem)

end Colloquy.Text
