/-!
Blank characters: the Unicode property White_Space, 25 code points.
-/

namespace Colloquy.Text

/-- Closed ranges of code points, ascending and apart. -/
def blankRanges : List (Nat × Nat) :=
  [(0x09, 0x0D), (0x20, 0x20), (0x85, 0x85), (0xA0, 0xA0), (0x1680, 0x1680),
   (0x2000, 0x200A), (0x2028, 0x2029), (0x202F, 0x202F), (0x205F, 0x205F), (0x3000, 0x3000)]

def isBlank (c : Char) : Bool :=
  blankRanges.any fun r => r.1 ≤ c.toNat && c.toNat ≤ r.2

def allBlank (cs : List Char) : Bool := cs.all isBlank

/-- The characters without the blank ones at both ends. -/
def trimList (cs : List Char) : List Char :=
  ((cs.dropWhile isBlank).reverse.dropWhile isBlank).reverse

def trim (s : String) : String := String.ofList (trimList s.toList)

/-- All blank characters removed, inner ones too. -/
def stripBlanks (s : String) : String := String.ofList (s.toList.filter (!isBlank ·))

@[simp] theorem toList_stripBlanks (s : String) :
    (stripBlanks s).toList = s.toList.filter (!isBlank ·) := by
  simp [stripBlanks]

theorem not_isBlank_of_mem_stripBlanks {s : String} {c : Char}
    (h : c ∈ (stripBlanks s).toList) : isBlank c = false := by
  simp at h
  exact h.2

end Colloquy.Text
