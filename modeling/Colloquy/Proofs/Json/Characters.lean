import Colloquy.Json.Reader

/-!
Reading text back: escaping and the escape sequences undo each other.
-/

namespace Colloquy.Json

theorem hexValue?_hexDigit {n : Nat} (h : n < 16) : Url.hexValue? (hexDigit n) = some n := by
  have all : ∀ i : Fin 16, Url.hexValue? (hexDigit i.val) = some i.val := by decide
  exact all ⟨n, h⟩

theorem readUnit_hexDigits {n : Nat} (h : n < 0x20) (rest : List Char) :
    readUnit ('0' :: '0' :: hexDigit (n / 16) :: hexDigit (n % 16) :: rest) =
      .ok (n, ⟨rest, by simp; omega⟩) := by
  have hlength :
      ¬ byteLength ('0' :: '0' :: hexDigit (n / 16) :: hexDigit (n % 16) :: rest) < 4 := by
    have h1 := Char.utf8Size_pos (hexDigit (n / 16))
    have h2 := Char.utf8Size_pos (hexDigit (n % 16))
    have h0 : ('0' : Char).utf8Size = 1 := by decide
    simp only [byteLength, List.foldr_cons, h0]
    omega
  have hdigits : ['0', '0', hexDigit (n / 16), hexDigit (n % 16)].mapM Url.hexValue? =
      some [0, 0, n / 16, n % 16] := by
    have hzero : Url.hexValue? '0' = some 0 := by decide
    simp [hzero, hexValue?_hexDigit (show n / 16 < 16 by omega),
      hexValue?_hexDigit (show n % 16 < 16 by omega)]
  rw [readUnit, if_neg hlength]
  simp only [List.take_succ_cons, List.take_zero, hdigits]
  simp
  omega

theorem readEscape_control {c : Char} (h : c.toNat < 0x20) (rest : List Char) :
    readEscape ('u' :: '0' :: '0' :: hexDigit (c.toNat / 16) :: hexDigit (c.toNat % 16) :: rest) =
      .ok (c, ⟨rest, by simp; omega⟩) := by
  have hlow : isLowSurrogate c.toNat = false := by simp [isLowSurrogate]; omega
  have hhigh : isHighSurrogate c.toNat = false := by simp [isHighSurrogate]; omega
  have hcode : readCode ('0' :: '0' :: hexDigit (c.toNat / 16) :: hexDigit (c.toNat % 16) :: rest) =
      .ok (c, ⟨rest, by simp; omega⟩) := by
    simp [readCode, readUnit_hexDigits h, hlow, hhigh, bind, Except.bind, pure, Except.pure,
      Char.ofNat_toNat]
  rw [readEscape, hcode]
  rfl

/-- A character is written as one letter after a backslash, by its code, or as it is. -/
theorem escape_cases (c : Char) :
    (∃ letter, escape c = ['\\', letter] ∧ letter ≠ 'u' ∧
      shortEscapes.lookup letter = some c) ∨
    (c.toNat < 0x20 ∧ escape c =
      ['\\', 'u', '0', '0', hexDigit (c.toNat / 16), hexDigit (c.toNat % 16)]) ∨
    (c ≠ '"' ∧ c ≠ '\\' ∧ ¬ c.toNat < 0x20 ∧ escape c = [c]) := by
  by_cases hquote : c = '"'
  · subst hquote
    exact .inl ⟨'"', by decide⟩
  by_cases hbackslash : c = '\\'
  · subst hbackslash
    exact .inl ⟨'\\', by decide⟩
  by_cases hbackspace : c = '\x08'
  · subst hbackspace
    exact .inl ⟨'b', by decide⟩
  by_cases htab : c = '\t'
  · subst htab
    exact .inl ⟨'t', by decide⟩
  by_cases hnewline : c = '\n'
  · subst hnewline
    exact .inl ⟨'n', by decide⟩
  by_cases hfeed : c = '\x0C'
  · subst hfeed
    exact .inl ⟨'f', by decide⟩
  by_cases hreturn : c = '\r'
  · subst hreturn
    exact .inl ⟨'r', by decide⟩
  by_cases hcontrol : c.toNat < 0x20
  · exact .inr (.inl ⟨hcontrol, by simp [escape, *]⟩)
  · exact .inr (.inr ⟨hquote, hbackslash, hcontrol, by simp [escape, *]⟩)

theorem readEscape_short {letter c : Char} (hletter : letter ≠ 'u')
    (hlookup : shortEscapes.lookup letter = some c) (rest : List Char) :
    readEscape (letter :: rest) = .ok (c, Left.tail letter rest) := by
  rw [readEscape, hlookup]
  exact hletter

theorem readCharacters_backslash {code rest cs : List Char} {c : Char} {hle}
    (hescape : readEscape code = .ok (c, ⟨rest, hle⟩)) {left : Left rest}
    (h : readCharacters rest = .ok (cs, left)) :
    ∃ hle, readCharacters ('\\' :: code) = .ok (c :: cs, ⟨left.1, hle⟩) := by
  refine ⟨Nat.le_succ_of_le (Nat.le_trans left.2 hle), ?_⟩
  rw [readCharacters]
  simp only [hescape, h, bind, Except.bind, pure, Except.pure]

theorem readCharacters_escape (c : Char) {rest cs : List Char} {left : Left rest}
    (h : readCharacters rest = .ok (cs, left)) :
    ∃ hle, readCharacters (escape c ++ rest) = .ok (c :: cs, ⟨left.1, hle⟩) := by
  rcases escape_cases c with ⟨letter, hescape, hletter, hlookup⟩ | ⟨hcontrol, hescape⟩ |
    ⟨hquote, hbackslash, hcontrol, hescape⟩
  · rw [hescape]
    exact readCharacters_backslash (readEscape_short hletter hlookup rest) h
  · rw [hescape]
    exact readCharacters_backslash (readEscape_control hcontrol rest) h
  · rw [hescape]
    refine ⟨Nat.le_succ_of_le left.2, ?_⟩
    change readCharacters (c :: rest) = _
    rw [readCharacters]
    · simp only [hcontrol, h, bind, Except.bind, pure, Except.pure, if_false]
    · exact hquote
    · exact hbackslash

/-- Escaped characters up to the closing quote are read back. -/
theorem readCharacters_flatMap_escape (cs rest : List Char) :
    ∃ hle, readCharacters (cs.flatMap escape ++ '"' :: rest) = .ok (cs, ⟨rest, hle⟩) := by
  induction cs with
  | nil =>
      refine ⟨Nat.le_succ _, ?_⟩
      change readCharacters ('"' :: rest) = _
      rw [readCharacters]
      rfl
  | cons c cs ih =>
      obtain ⟨_, hrest⟩ := ih
      rw [List.flatMap_cons, List.append_assoc]
      exact readCharacters_escape c hrest

end Colloquy.Json
