import Colloquy.Text.Blank
import Colloquy.Text.Word
import Colloquy.Url.Percent

/-!
Word characters are not blank: the tables that they come from tell no blank code point.
-/

namespace Colloquy.Text

open CodeSet (avoids_of_table avoids_unions)

/-- The categories that words are made of. -/
def Category.inWords : List Category :=
  letters ++ marks ++ [decimalNumber, letterNumber, connectorPunctuation]

set_option maxRecDepth 100000 in
theorem Category.avoids_set {category : Category} (h : category ∈ inWords) :
    category.set.Avoids blankRanges := by
  simp only [inWords, letters, marks, List.cons_append, List.nil_append, List.mem_cons,
    List.not_mem_nil, or_false] at h
  rcases h with rfl | rfl | rfl | rfl | rfl | rfl | rfl | rfl | rfl | rfl | rfl
  all_goals exact avoids_of_table ⟨_, rfl, by decide +kernel⟩

theorem Category.avoids_setOf {categories : List Category} (h : categories ⊆ inWords) :
    (setOf categories).Avoids blankRanges := by
  refine avoids_unions fun set hset => ?_
  obtain ⟨category, hcategory, rfl⟩ := List.mem_map.mp hset
  exact avoids_set (h hcategory)

namespace Property

set_option maxRecDepth 100000 in
theorem avoids_lowercase : lowercase.Avoids blankRanges :=
  (Category.avoids_set (by decide)).union (avoids_of_table ⟨_, rfl, by decide +kernel⟩)

theorem avoids_uppercase : uppercase.Avoids blankRanges :=
  (Category.avoids_set (by decide)).union (avoids_of_table ⟨_, rfl, by decide +kernel⟩)

set_option maxRecDepth 100000 in
theorem avoids_alphabetic : alphabetic.Avoids blankRanges := by
  refine avoids_unions (List.forall_mem_cons.mpr ⟨avoids_lowercase, ?_⟩)
  refine List.forall_mem_cons.mpr ⟨avoids_uppercase, ?_⟩
  refine List.forall_mem_cons.mpr ⟨avoids_of_table ⟨_, rfl, by decide +kernel⟩, ?_⟩
  exact List.forall_mem_singleton.mpr (Category.avoids_setOf (by decide))

theorem avoids_joinControl : joinControl.Avoids blankRanges :=
  avoids_of_table ⟨_, rfl, by decide +kernel⟩

end Property

theorem avoids_wordSet : wordSet.Avoids blankRanges := by
  refine avoids_unions (List.forall_mem_cons.mpr ⟨Property.avoids_alphabetic, ?_⟩)
  refine List.forall_mem_cons.mpr ⟨Property.avoids_joinControl, ?_⟩
  exact List.forall_mem_singleton.mpr (Category.avoids_setOf (by decide))

theorem not_isBlank_of_isWord {c : Char} (h : isWord c = true) : isBlank c = false := by
  rw [← Bool.not_eq_true]
  intro hblank
  have hcovers : CodeSet.Covers blankRanges c.toNat := by
    simpa [isBlank, CodeSet.Covers] using hblank
  unfold isWord at h
  split at h
  · next hascii =>
    have hall : ∀ c : Char, c.toNat < 128 → isBlank c = true →
        ¬ (c.isAlphanum || c == '_') = true := Url.forall_ascii (by decide)
    exact hall c hascii hblank h
  · rw [avoids_wordSet.contains hcovers] at h
    cases h

end Colloquy.Text
