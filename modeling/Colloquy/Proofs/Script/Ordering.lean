import Colloquy.Proofs.Text.Numeral
import Colloquy.Script.Condition
import Mathlib.Logic.ExistsUnique
import Mathlib.Logic.Basic

/-!
Comparisons of order are comparisons of integers, whatever texts are compared: a text that is no
64-bit integer counts as zero.  Equality is that of the texts.
-/

namespace Colloquy

open Text (Denotes IsInteger64 Sign numeral)

/-- The integer that a text counts as where integers are compared. -/
inductive Text.CountsAs (s : String) : Int → Prop where
  | integer {n : Int} (denotes : Denotes s n) (range : IsInteger64 n) : CountsAs s n
  | other (h : ∀ n, Denotes s n → ¬ IsInteger64 n) : CountsAs s 0

open Text (CountsAs)

/-- The order of integers that a comparison stands for. -/
inductive Comparison.StandsFor : Comparison → (Int → Int → Prop) → Prop where
  | greater : StandsFor .greater (· > ·)
  | atLeast : StandsFor .atLeast (· ≥ ·)
  | less : StandsFor .less (· < ·)
  | atMost : StandsFor .atMost (· ≤ ·)

namespace Condition

theorem countsAs_looseInteger (s : String) : CountsAs s (looseInteger s) := by
  rw [looseInteger]
  cases hread : Text.integer64? s with
  | some n =>
      obtain ⟨hdenotes, hrange⟩ := Text.integer64?_eq_some_iff.mp hread
      exact .integer hdenotes hrange
  | none =>
      refine .other fun n hdenotes hrange => ?_
      rw [Text.integer64?_eq_some_iff.mpr ⟨hdenotes, hrange⟩] at hread
      cases hread

theorem countsAs_iff {s : String} {n : Int} : CountsAs s n ↔ looseInteger s = n := by
  constructor
  · rintro (⟨hdenotes, hrange⟩ | hother)
    · rw [looseInteger, Text.integer64?_eq_some_iff.mpr ⟨hdenotes, hrange⟩]
      rfl
    · rw [looseInteger]
      cases hread : Text.integer64? s with
      | none => rfl
      | some n =>
          obtain ⟨hdenotes, hrange⟩ := Text.integer64?_eq_some_iff.mp hread
          exact absurd hrange (hother n hdenotes)
  · rintro rfl
    exact countsAs_looseInteger s

theorem existsUnique_countsAs (s : String) : ∃! n, CountsAs s n :=
  ⟨looseInteger s, countsAs_looseInteger s, fun _ h => (countsAs_iff.mp h).symm⟩

variable {comparison : Comparison} {order : Int → Int → Prop}

theorem holdsFor_iff_order (h : comparison.StandsFor order) (left l r : String) :
    holdsFor ⟨left, comparison, r⟩ l = true ↔ order (looseInteger l) (looseInteger r) := by
  cases h <;> exact decide_eq_true_iff

theorem holdsFor_numeral (h : comparison.StandsFor order) (left : String) {sign sign' : Sign}
    {m n : Nat} (zeros zeros' : Nat) (hm : IsInteger64 (sign.signed m))
    (hn : IsInteger64 (sign'.signed n)) :
    holdsFor ⟨left, comparison, numeral sign' zeros' n⟩ (numeral sign zeros m) = true ↔
      order (sign.signed m) (sign'.signed n) := by
  have hleft := countsAs_iff.mp (.integer (Text.denotes_numeral sign zeros m) hm)
  have hright := countsAs_iff.mp (.integer (Text.denotes_numeral sign' zeros' n) hn)
  rw [holdsFor_iff_order h, hleft, hright]

/-- What the six comparisons say of two texts. -/
structure Compares (left l r : String) : Prop where
  equal : holdsFor ⟨left, .equal, r⟩ l = true ↔ l = r
  notEqual : holdsFor ⟨left, .notEqual, r⟩ l = true ↔ l ≠ r
  ordered : ∀ {comparison order}, Comparison.StandsFor comparison order → ∀ {m n : Int},
    CountsAs l m → CountsAs r n → (holdsFor ⟨left, comparison, r⟩ l = true ↔ order m n)
  atLeast_or_less :
    Xor (holdsFor ⟨left, .atLeast, r⟩ l = true) (holdsFor ⟨left, .less, r⟩ l = true)
  atMost_or_greater :
    Xor (holdsFor ⟨left, .atMost, r⟩ l = true) (holdsFor ⟨left, .greater, r⟩ l = true)
  same : l = r →
    holdsFor ⟨left, .atLeast, r⟩ l = true ∧ holdsFor ⟨left, .atMost, r⟩ l = true

theorem compares (left l r : String) : Compares left l r where
  equal := decide_eq_true_iff
  notEqual := decide_eq_true_iff
  ordered := by
    intro comparison order h m n hm hn
    rw [holdsFor_iff_order h, countsAs_iff.mp hm, countsAs_iff.mp hn]
  atLeast_or_less := by
    rw [holdsFor_iff_order .atLeast, holdsFor_iff_order .less, xor_iff_iff_not]
    exact Int.not_lt.symm
  atMost_or_greater := by
    rw [holdsFor_iff_order .atMost, holdsFor_iff_order .greater, xor_iff_iff_not]
    exact Int.not_lt.symm
  same := by
    rintro rfl
    rw [holdsFor_iff_order .atLeast, holdsFor_iff_order .atMost]
    exact ⟨Int.le_refl _, Int.le_refl _⟩

/-- Every text counts as one integer, the comparisons of order go by these integers and those of
equality by the texts, and numerals of 64-bit integers compare as the integers do. -/
theorem holdsFor_orders_integers :
    (∀ s, ∃! n, CountsAs s n) ∧ (∀ left l r, Compares left l r) ∧
    ∀ {comparison order}, Comparison.StandsFor comparison order →
      ∀ (left : String) (sign sign' : Sign) (zeros zeros' m n : Nat),
        IsInteger64 (sign.signed m) → IsInteger64 (sign'.signed n) →
          (holdsFor ⟨left, comparison, numeral sign' zeros' n⟩ (numeral sign zeros m) = true ↔
            order (sign.signed m) (sign'.signed n)) :=
  ⟨existsUnique_countsAs, compares, fun h left _ _ zeros zeros' _ _ hm hn =>
    holdsFor_numeral h left zeros zeros' hm hn⟩

/-- The least integer is less than a text that is one off the greatest and so counts as zero, and
numerals at both ends compare as they should, with signs and zeros in front. -/
theorem holdsFor_orders_integers_ends :
    holdsFor ⟨"age", .less, "9223372036854775808"⟩ "-9223372036854775808" = true ∧
    holdsFor ⟨"age", .greater, "-009223372036854775808"⟩ "+09223372036854775807" = true := by
  obtain ⟨_, hcompares, hnumerals⟩ := holdsFor_orders_integers
  have hleast : CountsAs "-9223372036854775808" (-2 ^ 63) :=
    countsAs_iff.mpr (by decide +kernel)
  have hoff : CountsAs "9223372036854775808" 0 := countsAs_iff.mpr (by decide +kernel)
  have hgreatest : numeral .plus 1 9223372036854775807 = "+09223372036854775807" := by
    decide +kernel
  have hpadded : numeral .minus 2 9223372036854775808 = "-009223372036854775808" := by
    decide +kernel
  have hends := hnumerals .greater "age" .plus .minus 1 2 9223372036854775807 9223372036854775808
    (by decide) (by decide)
  rw [hgreatest, hpadded] at hends
  exact ⟨((hcompares "age" _ _).ordered .less hleast hoff).mpr (by decide), hends.mpr (by decide)⟩

end Condition

end Colloquy
