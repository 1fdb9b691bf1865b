import Colloquy.Session.Keys

/-!
Different sessions have different keys.  Sessions of one script are told apart by their own
identifiers, whatever these contain; those of different scripts by the part before the first colon.
-/

namespace Colloquy.Session.Keys

/-- A text without a colon is known from what stands before the first colon. -/
theorem before_colon_unique {first second rest others : List Char}
    (hfirst : ':' ∉ first) (hsecond : ':' ∉ second)
    (h : first ++ ':' :: rest = second ++ ':' :: others) : first = second := by
  induction first generalizing second with
  | nil =>
      cases second with
      | nil => rfl
      | cons c second =>
          have hhead : ':' = c := (List.cons.inj h).1
          exact absurd (hhead ▸ List.mem_cons_self) hsecond
  | cons c first ih =>
      cases second with
      | nil =>
          have hhead : c = ':' := (List.cons.inj h).1
          exact absurd (hhead ▸ List.mem_cons_self) hfirst
      | cons d second =>
          obtain ⟨hhead, htail⟩ := List.cons.inj h
          have hrest := ih (fun hmem => hfirst (List.mem_cons_of_mem c hmem))
            (fun hmem => hsecond (List.mem_cons_of_mem d hmem)) htail
          rw [hhead, hrest]

variable {first second : Keys}

theorem stem_injective (hscript : first.scriptId = second.scriptId)
    (h : first.stem = second.stem) : first = second := by
  have hchars := congrArg String.toList h
  simp only [stem, hscript, String.toList_append, List.append_assoc,
    List.append_cancel_left_eq] at hchars
  cases first
  cases second
  simp_all [String.toList_inj]

theorem stem_injective_of_no_colon (hfirst : ':' ∉ first.scriptId.toList)
    (hsecond : ':' ∉ second.scriptId.toList) (h : first.stem = second.stem) : first = second := by
  have hchars := congrArg String.toList h
  simp only [stem, String.toList_append, List.append_assoc] at hchars
  have hscript := before_colon_unique hfirst hsecond hchars
  exact stem_injective (String.toList_inj.mp hscript) h

theorem stem_eq_of_pointer_eq (h : first.pointer = second.pointer) :
    first.stem = second.stem := by
  have hchars := congrArg String.toList h
  simp only [pointer, String.toList_append, List.append_cancel_right_eq] at hchars
  exact String.toList_inj.mp hchars

theorem stem_eq_of_answers_eq (h : first.answers = second.answers) :
    first.stem = second.stem := by
  have hchars := congrArg String.toList h
  simp only [answers, String.toList_append, List.append_cancel_right_eq] at hchars
  exact String.toList_inj.mp hchars

end Colloquy.Session.Keys
