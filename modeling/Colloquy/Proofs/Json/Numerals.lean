import Colloquy.Json.Number

/-!
Reading natural numbers back from their decimal digits.
-/

namespace Colloquy.Json

/-- The input goes on with nothing that could belong to a number. -/
def EndsNumber (rest : List Char) : Prop :=
  ∀ c ∈ rest.head?, c.isDigit = false ∧ c ≠ '.' ∧ c ≠ 'e' ∧ c ≠ 'E'

namespace EndsNumber

theorem nil : EndsNumber [] := by
  intro c hc
  cases hc

theorem cons {c : Char} (h : c.isDigit = false ∧ c ≠ '.' ∧ c ≠ 'e' ∧ c ≠ 'E')
    (rest : List Char) : EndsNumber (c :: rest) := by
  rintro _ ⟨⟩
  exact h

variable {rest : List Char}

theorem skipDigits_eq (h : EndsNumber rest) : skipDigits rest = Left.all rest := by
  cases rest with
  | nil => rfl
  | cons c rest =>
      obtain ⟨hdigit, _⟩ := h c rfl
      apply Subtype.ext
      simp [skipDigits, hdigit, Left.all]

theorem startsWithDigit_eq (h : EndsNumber rest) : startsWithDigit rest = false := by
  cases rest with
  | nil => rfl
  | cons c rest =>
      obtain ⟨hdigit, _⟩ := h c rfl
      simp [startsWithDigit, hdigit]

theorem accumulate_eq (h : EndsNumber rest) (bound value : Nat) :
    accumulate bound value rest = (value, 0, Left.all rest) := by
  cases rest with
  | nil => rfl
  | cons c rest =>
      obtain ⟨hdigit, _⟩ := h c rfl
      exact if_neg (by simp [hdigit])

theorem ne_point (h : EndsNumber rest) (more : List Char) : rest ≠ '.' :: more := by
  rintro rfl
  exact (h '.' rfl).2.1 rfl

theorem afterExponentLetter?_eq (h : EndsNumber rest) : afterExponentLetter? rest = none := by
  cases rest with
  | nil => rfl
  | cons c rest =>
      obtain ⟨_, _, hlower, hupper⟩ := h c rfl
      rw [afterExponentLetter?]
      · exact fun _ heq => hlower (List.cons.inj heq).1
      · exact fun _ heq => hupper (List.cons.inj heq).1

end EndsNumber

theorem le_ofDigitChars (digits : List Char) (value : Nat) :
    value ≤ Nat.ofDigitChars 10 digits value := by
  induction digits generalizing value with
  | nil => exact Nat.le_refl value
  | cons c digits ih =>
      rw [Nat.ofDigitChars_cons]
      exact Nat.le_trans (by omega) (ih _)

theorem accumulate_of_digit {bound value : Nat} {c : Char} (hc : c.isDigit = true)
    (hlt : value * 10 + Text.digitValue c < bound) {rest : List Char} {total taken : Nat}
    {left : Left rest}
    (h : accumulate bound (value * 10 + Text.digitValue c) rest = (total, taken, left)) :
    accumulate bound value (c :: rest) =
      (total, taken + 1, ⟨left.1, Nat.le_succ_of_le left.2⟩) := by
  change (if (c.isDigit && decide (value * 10 + Text.digitValue c < bound)) = true then _
    else _) = _
  rw [if_pos (by simp [hc, hlt]), h]

/-- Digits are taken as long as their value stays below the bound. -/
theorem accumulate_append {bound : Nat} (digits : List Char)
    (hdigits : ∀ c ∈ digits, c.isDigit = true) {rest : List Char} (hrest : EndsNumber rest)
    (value : Nat) (hbound : Nat.ofDigitChars 10 digits value < bound) :
    ∃ hle, accumulate bound value (digits ++ rest) =
      (Nat.ofDigitChars 10 digits value, digits.length, ⟨rest, hle⟩) := by
  induction digits generalizing value with
  | nil => exact ⟨Nat.le_refl _, hrest.accumulate_eq bound value⟩
  | cons c digits ih =>
      have hc := hdigits c List.mem_cons_self
      have hvalue : 10 * value + (c.toNat - '0'.toNat) = value * 10 + Text.digitValue c := by
        rw [Nat.mul_comm]
        rfl
      rw [Nat.ofDigitChars_cons, hvalue] at hbound ⊢
      have hlt := Nat.lt_of_le_of_lt (le_ofDigitChars digits _) hbound
      obtain ⟨hle, hlater⟩ := ih (fun d hd => hdigits d (List.mem_cons_of_mem c hd)) _ hbound
      exact ⟨Nat.le_succ_of_le hle, accumulate_of_digit hc hlt hlater⟩

theorem head?_toDigits_ne_zero {n : Nat} (h : 0 < n) : (Nat.toDigits 10 n).head? ≠ some '0' := by
  induction n using Nat.strongRecOn with
  | ind n ih =>
      by_cases hlt : n < 10
      · rw [Nat.toDigits_of_lt_base hlt]
        simp
        omega
      · rw [Nat.toDigits_of_base_le (by decide) (by omega), List.head?_append]
        have hfront := ih (n / 10) (by omega) (by omega)
        cases hhead : (Nat.toDigits 10 (n / 10)).head? with
        | none => exact absurd (List.head?_eq_none_iff.mp hhead) Nat.toDigits_ne_nil
        | some c => simpa [hhead] using hfront

theorem exists_cons_toDigits (n : Nat) :
    ∃ c more, Nat.toDigits 10 n = c :: more ∧ c.isDigit = true := by
  obtain ⟨c, more, hcons⟩ := List.exists_cons_of_ne_nil (Nat.toDigits_ne_nil (n := n) (b := 10))
  refine ⟨c, more, hcons, ?_⟩
  apply Nat.isDigit_of_mem_toDigits (b := 10) (n := n) (by decide) (by decide)
  rw [hcons]
  exact List.mem_cons_self

theorem readWhole_toDigits {n : Nat} (hn : n < wordBound) {rest : List Char}
    (hrest : EndsNumber rest) :
    ∃ taken hle, readWhole (Nat.toDigits 10 n ++ rest) = (n, taken, ⟨rest, hle⟩) := by
  have hdigits : ∀ c ∈ Nat.toDigits 10 n, c.isDigit = true := fun c hc =>
    Nat.isDigit_of_mem_toDigits (by decide) (by decide) hc
  obtain ⟨hle, haccumulate⟩ := accumulate_append _ hdigits hrest 0 (by simpa using hn)
  rw [Nat.ofDigitChars_ten_toDigits] at haccumulate
  by_cases hzero : n = 0
  · subst hzero
    exact ⟨1, Nat.le_succ _, rfl⟩
  · refine ⟨(Nat.toDigits 10 n).length, hle, ?_⟩
    rw [readWhole, haccumulate]
    intro later heq
    have hhead := head?_toDigits_ne_zero (Nat.pos_of_ne_zero hzero)
    obtain ⟨c, more, hcons, _⟩ := exists_cons_toDigits n
    rw [hcons, List.cons_append] at heq
    rw [hcons] at hhead
    exact hhead (congrArg some (List.cons.inj heq).1)

theorem startsWithDigit_toDigits (n : Nat) (rest : List Char) :
    (Nat.toDigits 10 n ++ rest).isEmpty = false ∧
      startsWithDigit (Nat.toDigits 10 n ++ rest) = true := by
  obtain ⟨c, more, hcons, hdigit⟩ := exists_cons_toDigits n
  rw [hcons]
  exact ⟨rfl, by simpa [startsWithDigit] using hdigit⟩

/-- A natural number that fits into 64 bits is read back from its digits. -/
theorem readNumber_toDigits {n : Nat} (hn : n < wordBound) {rest : List Char}
    (hrest : EndsNumber rest) :
    ∃ hle, readNumber true (Nat.toDigits 10 n ++ rest) = .ok (.natural n, ⟨rest, hle⟩) := by
  obtain ⟨taken, hle, hwhole⟩ := readWhole_toDigits hn hrest
  obtain ⟨hempty, hdigit⟩ := startsWithDigit_toDigits n rest
  have hstop : (skipDigits (readWhole (Nat.toDigits 10 n ++ rest)).2.2.1).1 = rest := by
    rw [hwhole, hrest.skipDigits_eq]
    rfl
  have hletter : (afterExponentLetter?
      (skipDigits (readWhole (Nat.toDigits 10 n ++ rest)).2.2.1).1).isSome = false := by
    rw [hstop, hrest.afterExponentLetter?_eq]
    rfl
  refine ⟨hle, ?_⟩
  unfold readNumber
  simp only [hempty, hdigit, hwhole, hrest.startsWithDigit_eq, Bool.false_eq_true, if_false,
    Bool.not_true, Bool.and_false]
  split
  · next more heq => exact absurd (hstop.symm.trans heq) (hrest.ne_point more)
  · simp [hletter, hstop, pure, Except.pure, Left.all]

end Colloquy.Json
