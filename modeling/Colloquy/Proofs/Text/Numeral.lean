import Colloquy.Text.Numeral
import Mathlib.Data.Nat.Digits.Defs

/-!
Numerals and what they denote.  A text is read as an integer exactly if it is written as one: a sign
or none, then digits, of which any number may be zeros in front.
-/

namespace Colloquy.Text

inductive Sign where
  | none
  | plus
  | minus
deriving DecidableEq, Repr

namespace Sign

def mark : Sign → List Char
  | .none => []
  | .plus => ['+']
  | .minus => ['-']

def signed : Sign → Nat → Int
  | .minus, n => -n
  | _, n => n

end Sign

/-- The number that a run of digits stands for, the last one counting once. -/
def placeValue (digits : List Char) : Nat := Nat.ofDigits 10 (digits.reverse.map digitValue)

theorem foldl_eq_placeValue (digits : List Char) :
    digits.foldl (fun n c => n * 10 + digitValue c) 0 = placeValue digits := by
  rw [placeValue, Nat.ofDigits_eq_foldr, List.foldr_map, List.foldr_reverse]
  congr 1
  funext n c
  simp only [Nat.cast_id]
  omega

theorem digits?_eq_some_iff {cs : List Char} {n : Nat} :
    digits? cs = some n ↔ cs ≠ [] ∧ (∀ c ∈ cs, c.isDigit = true) ∧ placeValue cs = n := by
  rw [digits?, foldl_eq_placeValue]
  simp [and_assoc]

/-- The text is a numeral of `n`. -/
inductive Denotes (s : String) (n : Int) : Prop where
  | intro (sign : Sign) (digits : List Char) (written : s.toList = sign.mark ++ digits)
      (nonempty : digits ≠ []) (isDigit : ∀ c ∈ digits, c.isDigit = true)
      (value : sign.signed (placeValue digits) = n)

theorem denotes_iff {s : String} {n : Int} :
    Denotes s n ↔ ∃ sign : Sign, ∃ digits m, s.toList = sign.mark ++ digits ∧
      digits? digits = some m ∧ sign.signed m = n := by
  constructor
  · rintro ⟨sign, digits, hwritten, hne, hdigit, hvalue⟩
    exact ⟨sign, digits, _, hwritten, digits?_eq_some_iff.mpr ⟨hne, hdigit, rfl⟩, hvalue⟩
  · rintro ⟨sign, digits, m, hwritten, hdigits, hvalue⟩
    obtain ⟨hne, hdigit, rfl⟩ := digits?_eq_some_iff.mp hdigits
    exact ⟨sign, digits, hwritten, hne, hdigit, hvalue⟩

theorem exists_written_of_integer? {s : String} {n : Int} (h : integer? s = some n) :
    ∃ sign : Sign, ∃ digits m, s.toList = sign.mark ++ digits ∧ digits? digits = some m ∧
      sign.signed m = n := by
  rw [integer?] at h
  split at h
  · next rest htext =>
    cases hm : digits? rest with
    | none =>
        rw [hm] at h
        cases h
    | some m =>
        rw [hm] at h
        exact ⟨.minus, rest, m, htext, hm, Option.some.inj h⟩
  · next rest htext =>
    obtain ⟨m, hm, hn⟩ := Option.map_eq_some_iff.mp h
    exact ⟨.plus, rest, m, htext, hm, hn⟩
  · obtain ⟨m, hm, hn⟩ := Option.map_eq_some_iff.mp h
    exact ⟨.none, s.toList, m, rfl, hm, hn⟩

theorem integer?_of_written {s : String} {sign : Sign} {digits : List Char} {m : Nat}
    (hwritten : s.toList = sign.mark ++ digits) (hm : digits? digits = some m) :
    integer? s = some (sign.signed m) := by
  rw [integer?, hwritten]
  cases sign with
  | minus =>
      simp only [Sign.mark, List.cons_append, List.nil_append, hm]
      rfl
  | plus => exact Option.map_eq_some_iff.mpr ⟨m, hm, rfl⟩
  | none =>
      -- Without a sign the text starts with a digit, so it is not taken for a signed one.
      have hdigit := (digits?_eq_some_iff.mp hm).2.1
      split
      · next rest htext =>
        obtain rfl : digits = '-' :: rest := htext
        exact absurd (hdigit '-' List.mem_cons_self) (by decide)
      · next rest htext =>
        obtain rfl : digits = '+' :: rest := htext
        exact absurd (hdigit '+' List.mem_cons_self) (by decide)
      · exact Option.map_eq_some_iff.mpr ⟨m, hm, rfl⟩

theorem integer?_eq_some_iff {s : String} {n : Int} : integer? s = some n ↔ Denotes s n := by
  rw [denotes_iff]
  constructor
  · exact exists_written_of_integer?
  · rintro ⟨sign, digits, m, hwritten, hm, rfl⟩
    exact integer?_of_written hwritten hm

theorem Denotes.unique {s : String} {m n : Int} (hm : Denotes s m) (hn : Denotes s n) : m = n :=
  Option.some.inj ((integer?_eq_some_iff.mpr hm).symm.trans (integer?_eq_some_iff.mpr hn))

/-- A positive number below the bound is read exactly if the text is a numeral of it. -/
theorem naturalBelow?_eq_some_succ_iff {bound n : Nat} {s : String} :
    naturalBelow? bound s = some (n + 1) ↔ Denotes s (n + 1 : Nat) ∧ n + 1 < bound := by
  rw [naturalBelow?, Option.filter_eq_some_iff, decide_eq_true_eq, denotes_iff]
  refine and_congr_left fun _ => ?_
  constructor
  · intro hdigits
    split at hdigits
    · next rest htext => exact ⟨.plus, rest, n + 1, htext, hdigits, rfl⟩
    · exact ⟨.none, s.toList, n + 1, rfl, hdigits, rfl⟩
  · rintro ⟨sign, digits, m, hwritten, hm, hvalue⟩
    rw [hwritten]
    cases sign with
    | minus =>
        have hneg : -(m : Int) = (n + 1 : Nat) := hvalue
        omega
    | plus =>
        obtain rfl : m = n + 1 := Int.ofNat.inj hvalue
        exact hm
    | none =>
        obtain rfl : m = n + 1 := Int.ofNat.inj hvalue
        split
        · next rest htext =>
          obtain rfl : digits = '+' :: rest := htext
          exact absurd ((digits?_eq_some_iff.mp hm).2.1 '+' List.mem_cons_self) (by decide)
        · exact hm

def IsInteger64 (n : Int) : Prop := -2 ^ 63 ≤ n ∧ n ≤ 2 ^ 63 - 1

instance (n : Int) : Decidable (IsInteger64 n) := inferInstanceAs (Decidable (_ ∧ _))

theorem integer64?_eq_some_iff {s : String} {n : Int} :
    integer64? s = some n ↔ Denotes s n ∧ IsInteger64 n := by
  rw [integer64?, Option.filter_eq_some_iff, integer?_eq_some_iff, IsInteger64]
  simp only [decide_eq_true_eq]
  refine and_congr_right fun _ => ?_
  omega

/-- An integer as it may be written: with or without its sign, if it needs none, and with any number
of zeros in front. -/
def numeral (sign : Sign) (zeros n : Nat) : String :=
  String.ofList (sign.mark ++ (List.replicate zeros '0' ++ Nat.toDigits 10 n))

theorem placeValue_zeros (zeros : Nat) (digits : List Char) :
    placeValue (List.replicate zeros '0' ++ digits) = placeValue digits := by
  have hzero : digitValue '0' = 0 := by decide
  rw [placeValue, List.reverse_append, List.map_append, List.reverse_replicate, List.map_replicate,
    hzero, Nat.ofDigits_append_replicate_zero]
  rfl

theorem denotes_numeral (sign : Sign) (zeros n : Nat) :
    Denotes (numeral sign zeros n) (sign.signed n) := by
  obtain ⟨hne, hdigit, hvalue⟩ := digits?_eq_some_iff.mp (digits?_toDigits n)
  refine ⟨sign, _, String.toList_ofList, ?_, ?_, ?_⟩
  · exact List.append_ne_nil_of_right_ne_nil _ hne
  · intro c hc
    rcases List.mem_append.mp hc with hzero | hc
    · rw [List.eq_of_mem_replicate hzero]
      decide
    · exact hdigit c hc
  · rw [placeValue_zeros, hvalue]

end Colloquy.Text
