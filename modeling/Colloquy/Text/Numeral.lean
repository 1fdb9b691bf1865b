/-!
Decimal numerals: an optional sign and ASCII digits, nothing else.
-/

namespace Colloquy.Text

def digitValue (c : Char) : Nat := c.toNat - 48

/-- The value of a run of ASCII digits, which must not be empty. -/
def digits? (cs : List Char) : Option Nat :=
  if cs ≠ [] ∧ cs.all Char.isDigit then
    some (cs.foldl (fun n c => n * 10 + digitValue c) 0)
  else none

/-- A natural number below `bound`, with an optional plus sign. -/
def naturalBelow? (bound : Nat) (s : String) : Option Nat :=
  let digits := match s.toList with
    | '+' :: rest => rest
    | cs => cs
  (digits? digits).filter (· < bound)

theorem digits?_toDigits (n : Nat) : digits? (Nat.toDigits 10 n) = some n := by
  have hdigits : (Nat.toDigits 10 n).all Char.isDigit = true :=
    List.all_eq_true.2 fun c hc => Nat.isDigit_of_mem_toDigits (by decide) (by decide) hc
  have hvalue : Nat.ofDigitChars 10 (Nat.toDigits 10 n) 0 = n := Nat.ofDigitChars_ten_toDigits
  have hfold : (Nat.toDigits 10 n).foldl (fun n c => n * 10 + digitValue c) 0 =
      Nat.ofDigitChars 10 (Nat.toDigits 10 n) 0 := by
    unfold Nat.ofDigitChars
    congr 1
    funext n c
    rw [Nat.mul_comm]
    rfl
  rw [digits?, if_pos ⟨Nat.toDigits_ne_nil, hdigits⟩, hfold, hvalue]

/-- What a number is written as is read as that number. -/
theorem naturalBelow?_toString {bound n : Nat} (h : n < bound) :
    naturalBelow? bound (toString n) = some n := by
  have htext : (toString n).toList = Nat.toDigits 10 n := by
    rw [Nat.toString_eq_repr, Nat.toList_repr]
  have hplus : ∀ rest, Nat.toDigits 10 n ≠ '+' :: rest := by
    intro rest heq
    have hdigit := Nat.isDigit_of_mem_toDigits (b := 10) (n := n) (c := '+') (by decide) (by decide)
      (heq ▸ List.mem_cons_self)
    exact absurd hdigit (by decide)
  rw [naturalBelow?, htext]
  split
  · next rest heq => exact absurd heq (hplus rest)
  · rw [digits?_toDigits, Option.filter_some, if_pos (decide_eq_true h)]

def integer? (s : String) : Option Int :=
  match s.toList with
  | '-' :: rest => (digits? rest).map fun n => -(n : Int)
  | '+' :: rest => (digits? rest).map Int.ofNat
  | cs => (digits? cs).map Int.ofNat

/-- An integer from -2^63 up to 2^63 - 1. -/
def integer64? (s : String) : Option Int :=
  (integer? s).filter fun n => -0x8000000000000000 ≤ n ∧ n < 0x8000000000000000

/-- How many items a list can be asked for: positions are below 2^64. -/
def positionBound : Nat := 0x10000000000000000

end Colloquy.Text
