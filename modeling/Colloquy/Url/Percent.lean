import Colloquy.Text.Utf8

/-!
Percent coding: a byte as `%` and two hexadecimal digits, upper case when written.
-/

namespace Colloquy.Url

def hexDigit (n : Nat) : Char :=
  if n < 10 then Char.ofNat (48 + n) else Char.ofNat (55 + n)

def hexValue? (c : Char) : Option Nat :=
  if c.isDigit then some (c.toNat - 48)
  else if 'a' ≤ c ∧ c ≤ 'f' then some (c.toNat - 87)
  else if 'A' ≤ c ∧ c ≤ 'F' then some (c.toNat - 55)
  else none

theorem hexValue?_hexDigit {n : Nat} (h : n < 16) : hexValue? (hexDigit n) = some n := by
  have all : ∀ i : Fin 16, hexValue? (hexDigit i.val) = some i.val := by decide
  exact all ⟨n, h⟩

def escapeByte (b : UInt8) : List Char :=
  ['%', hexDigit (b.toNat / 16), hexDigit (b.toNat % 16)]

/-- ASCII characters that `keep` allows stand for themselves; all others are escaped. -/
def percentEncode (keep : Char → Bool) (cs : List Char) : List Char :=
  cs.flatMap fun c =>
    if c.toNat < 0x80 && keep c then [c]
    else (String.utf8EncodeChar c).flatMap escapeByte

theorem percentEncode_eq_self {keep : Char → Bool} {cs : List Char}
    (h : ∀ c ∈ cs, c.toNat < 0x80 ∧ keep c = true) : percentEncode keep cs = cs := by
  induction cs with
  | nil => rfl
  | cons c cs ih =>
    obtain ⟨hlt, hkeep⟩ := h c List.mem_cons_self
    have hrest := ih fun d hd => h d (List.mem_cons_of_mem c hd)
    rw [percentEncode, List.flatMap_cons, ← percentEncode, hrest]
    simp [hlt, hkeep]

theorem percentEncode_append (keep : Char → Bool) (cs ds : List Char) :
    percentEncode keep (cs ++ ds) = percentEncode keep cs ++ percentEncode keep ds :=
  List.flatMap_append

theorem percentEncode_ne_nil (keep : Char → Bool) {cs : List Char} (h : cs ≠ []) :
    percentEncode keep cs ≠ [] := by
  obtain ⟨c, rest, rfl⟩ := List.exists_cons_of_ne_nil h
  obtain ⟨b, bytes, hbytes⟩ := List.exists_cons_of_ne_nil (String.utf8EncodeChar_ne_nil (c := c))
  rw [percentEncode, List.flatMap_cons]
  split
  · exact List.cons_ne_nil _ _
  · rw [hbytes]
    exact List.cons_ne_nil _ _

theorem mem_escapeByte {b : UInt8} {c : Char} (h : c ∈ escapeByte b) :
    c = '%' ∨ ∃ i : Fin 16, c = hexDigit i := by
  have hb : b.toNat < 256 := b.toNat_lt
  simp only [escapeByte, List.mem_cons, List.not_mem_nil, or_false] at h
  rcases h with hmark | hhigh | hlow
  · exact .inl hmark
  · exact .inr ⟨⟨b.toNat / 16, by omega⟩, hhigh⟩
  · exact .inr ⟨⟨b.toNat % 16, by omega⟩, hlow⟩

/-- What is written is either kept or belongs to an escape. -/
theorem mem_percentEncode {keep : Char → Bool} {cs : List Char} {c : Char}
    (h : c ∈ percentEncode keep cs) :
    c ∈ cs ∧ keep c = true ∨ c = '%' ∨ ∃ i : Fin 16, c = hexDigit i := by
  obtain ⟨d, hd, hc⟩ := List.mem_flatMap.1 h
  split at hc
  · next hkept =>
    obtain rfl := List.mem_singleton.1 hc
    exact .inl ⟨hd, (Bool.and_eq_true_iff.1 hkept).2⟩
  · obtain ⟨b, _, hbyte⟩ := List.mem_flatMap.1 hc
    exact .inr (mem_escapeByte hbyte)

/-- The bytes that a text stands for; a `%` without two digits stands for itself. -/
def percentDecode : List Char → List UInt8
  | '%' :: a :: b :: rest =>
    match hexValue? a, hexValue? b with
    | some high, some low => UInt8.ofNat (high * 16 + low) :: percentDecode rest
    | _, _ => 0x25 :: percentDecode (a :: b :: rest)
  | c :: rest => String.utf8EncodeChar c ++ percentDecode rest
  | [] => []

/-- The ASCII characters can be tried one by one. -/
theorem forall_ascii {p : Char → Prop} (h : ∀ n : Fin 128, p (Char.ofNat n)) (c : Char)
    (hc : c.toNat < 128) : p c := by
  have hchar := h ⟨c.toNat, hc⟩
  rwa [Char.ofNat_toNat c] at hchar

theorem isAlphanum_eq (c : Char) : c.isAlphanum = (c.isUpper || c.isLower || c.isDigit) := rfl

theorem toNat_of_isUpper {c : Char} (h : c.isUpper = true) : 65 ≤ c.toNat ∧ c.toNat ≤ 90 :=
  of_decide_eq_true h

theorem toNat_of_isLower {c : Char} (h : c.isLower = true) : 97 ≤ c.toNat ∧ c.toNat ≤ 122 := by
  obtain ⟨hfrom, hto⟩ := Bool.and_eq_true_iff.1 h
  exact ⟨of_decide_eq_true hfrom, of_decide_eq_true hto⟩

theorem toNat_of_isDigit {c : Char} (h : c.isDigit = true) : 48 ≤ c.toNat ∧ c.toNat ≤ 57 := by
  obtain ⟨hfrom, hto⟩ := Bool.and_eq_true_iff.1 h
  exact ⟨of_decide_eq_true hfrom, of_decide_eq_true hto⟩

theorem toNat_of_isAlphanum {c : Char} (h : c.isAlphanum = true) :
    48 ≤ c.toNat ∧ c.toNat ≤ 122 := by
  rw [isAlphanum_eq, Bool.or_eq_true, Bool.or_eq_true] at h
  rcases h with (hupper | hlower) | hdigit
  · have := toNat_of_isUpper hupper
    omega
  · have := toNat_of_isLower hlower
    omega
  · have := toNat_of_isDigit hdigit
    omega

/-- Control characters apart, ASCII is kept. -/
def keepsOpaque (c : Char) : Bool := 0x20 ≤ c.toNat && c.toNat < 0x7F

theorem toNat_of_keepsOpaque {c : Char} (h : keepsOpaque c = true) :
    0x20 ≤ c.toNat ∧ c.toNat < 0x7F := by
  simpa [keepsOpaque] using h

theorem lt_toNat_of_ne_space {c : Char} (hle : 0x20 ≤ c.toNat) (hne : c ≠ ' ') :
    0x20 < c.toNat := by
  refine Nat.lt_of_le_of_ne hle fun heq => hne ?_
  exact Char.toNat_inj.1 heq.symm

def keepsPath (c : Char) : Bool :=
  keepsOpaque c && !(c ∈ [' ', '"', '<', '>', '`', '#', '?', '{', '}'])

def keepsQuery (c : Char) : Bool :=
  keepsOpaque c && !(c ∈ [' ', '"', '#', '<', '>'])

theorem percentEncode_of_keepsQuery {cs : List Char} (h : ∀ c ∈ cs, keepsQuery c = true) :
    percentEncode keepsQuery cs = cs := by
  refine percentEncode_eq_self fun c hc => ⟨?_, h c hc⟩
  exact Nat.lt_succ_of_lt (toNat_of_keepsOpaque (Bool.and_eq_true_iff.1 (h c hc)).1).2

end Colloquy.Url
