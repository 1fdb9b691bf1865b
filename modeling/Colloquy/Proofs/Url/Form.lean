import Colloquy.Proofs.Text.Utf8
import Colloquy.Url.Form

/-!
The form encoding can be read back: pair by pair, whatever the keys and values hold.
-/

namespace Colloquy.Url

theorem percentDecode_of_ne {c : Char} (h : c ≠ '%') (rest : List Char) :
    percentDecode (c :: rest) = String.utf8EncodeChar c ++ percentDecode rest := by
  rw [percentDecode]
  rintro a b more rfl
  exact absurd rfl h

theorem percentDecode_escapeByte (b : UInt8) (rest : List Char) :
    percentDecode (escapeByte b ++ rest) = b :: percentDecode rest := by
  have hb : b.toNat < 256 := b.toNat_lt
  have hvalue : b.toNat / 16 * 16 + b.toNat % 16 = b.toNat := by omega
  change percentDecode ('%' :: hexDigit (b.toNat / 16) :: hexDigit (b.toNat % 16) :: rest) = _
  rw [percentDecode, hexValue?_hexDigit (show b.toNat / 16 < 16 by omega),
    hexValue?_hexDigit (show b.toNat % 16 < 16 by omega)]
  simp only [hvalue, UInt8.ofNat_toNat]

theorem percentDecode_flatMap_escapeByte (bytes : List UInt8) (rest : List Char) :
    percentDecode (bytes.flatMap escapeByte ++ rest) = bytes ++ percentDecode rest := by
  induction bytes with
  | nil => rfl
  | cons b bytes ih =>
      rw [List.flatMap_cons, List.append_assoc, percentDecode_escapeByte, ih, List.cons_append]

/-- A question mark belongs to no escape. -/
theorem question_mem_percentDecode {cs : List Char} (h : '?' ∈ cs) :
    (0x3F : UInt8) ∈ percentDecode cs := by
  have hdigit : ∀ {c : Char} {n : Nat}, hexValue? c = some n → '?' ≠ c := by
    rintro c n hvalue rfl
    cases hvalue
  fun_induction percentDecode cs with
  | case1 a b rest high low hlow hhigh ih =>
      simp only [List.mem_cons] at h
      rcases h with hmark | ha | hb | hrest
      · cases hmark
      · exact absurd ha (hdigit hhigh)
      · exact absurd hb (hdigit hlow)
      · exact List.mem_cons_of_mem _ (ih hrest)
  | case2 a b rest hnone ih =>
      rcases List.mem_cons.mp h with hmark | hrest
      · cases hmark
      · exact List.mem_cons_of_mem _ (ih hrest)
  | case3 c rest hnone ih =>
      rcases List.mem_cons.mp h with rfl | hrest
      · exact List.mem_append_left _ (by decide)
      · exact List.mem_append_right _ (ih hrest)
  | case4 => cases h

theorem plus_not_mem_escapeByte (b : UInt8) : '+' ∉ escapeByte b := by
  have hdigits : ∀ i : Fin 16, '+' ≠ hexDigit i := by decide
  intro hmem
  rcases mem_escapeByte hmem with hmark | ⟨i, hdigit⟩
  · exact absurd hmark (by decide)
  · exact hdigits i hdigit

namespace Form

/-- The characters that the encoding writes for keys and values. -/
def isWritten (c : Char) : Bool := keeps c || c ∈ ['+', '%']

theorem toNat_lt_of_isWritten {c : Char} (h : isWritten c = true) : c.toNat < 128 := by
  simp only [isWritten, keeps, Bool.or_eq_true, decide_eq_true_eq] at h
  rcases h with (hletter | hmark) | hsign
  · exact Nat.lt_of_le_of_lt (toNat_of_isAlphanum hletter).2 (by decide)
  · have hmarks : ∀ c ∈ ['*', '-', '.', '_'], c.toNat < 128 := by simp
    exact hmarks c hmark
  · have hsigns : ∀ c ∈ ['+', '%'], c.toNat < 128 := by simp
    exact hsigns c hsign

/-- What is written needs no further escapes in a query and holds no separator. -/
theorem isWritten_clean {c : Char} (h : isWritten c = true) :
    keepsQuery c = true ∧ c ≠ '&' ∧ c ≠ '=' := by
  have hall : ∀ c : Char, c.toNat < 128 → isWritten c = true →
      keepsQuery c = true ∧ c ≠ '&' ∧ c ≠ '=' :=
    forall_ascii (by decide)
  exact hall c (toNat_lt_of_isWritten h) h

theorem isWritten_of_mem_escapeByte {b : UInt8} {c : Char} (h : c ∈ escapeByte b) :
    isWritten c = true := by
  have hdigits : ∀ i : Fin 16, isWritten (hexDigit i) = true := by decide
  rcases mem_escapeByte h with rfl | ⟨i, rfl⟩
  · rfl
  · exact hdigits i

theorem isWritten_of_mem_encodeChars {cs : List Char} {c : Char} (h : c ∈ encodeChars cs) :
    isWritten c = true := by
  obtain ⟨d, _, hc⟩ := List.mem_flatMap.mp h
  split at hc
  · rw [List.mem_singleton.mp hc]
    rfl
  · split at hc
    · next hkept =>
      rw [Bool.and_eq_true] at hkept
      rw [List.mem_singleton.mp hc, isWritten, hkept.2, Bool.true_or]
    · obtain ⟨b, _, hbyte⟩ := List.mem_flatMap.mp hc
      exact isWritten_of_mem_escapeByte hbyte

def hexDigits : List Char := "0123456789ABCDEF".toList

/-- Text of ASCII letters and digits, a few marks, and escapes of two hexadecimal digits. -/
inductive IsEncoded : List Char → Prop where
  | nil : IsEncoded []
  | kept {c : Char} {rest : List Char} (h : c.isAlphanum = true ∨ c ∈ ['*', '-', '.', '_', '+'])
      (more : IsEncoded rest) : IsEncoded (c :: rest)
  | escape {high low : Char} {rest : List Char} (hhigh : high ∈ hexDigits) (hlow : low ∈ hexDigits)
      (more : IsEncoded rest) : IsEncoded ('%' :: high :: low :: rest)

namespace IsEncoded

theorem append {cs ds : List Char} (hcs : IsEncoded cs) (hds : IsEncoded ds) :
    IsEncoded (cs ++ ds) := by
  induction hcs with
  | nil => exact hds
  | kept h more ih => exact .kept h ih
  | escape hhigh hlow more ih => exact .escape hhigh hlow ih

theorem flatMap {α : Type} {f : α → List Char} {items : List α}
    (h : ∀ item ∈ items, IsEncoded (f item)) : IsEncoded (items.flatMap f) := by
  induction items with
  | nil => exact .nil
  | cons item items ih =>
      rw [List.flatMap_cons]
      exact (h item List.mem_cons_self).append (ih fun other ho => h other (.tail item ho))

theorem singleton {c : Char} (h : c.isAlphanum = true ∨ c ∈ ['*', '-', '.', '_', '+']) :
    IsEncoded [c] :=
  .kept h .nil

end IsEncoded

theorem isEncoded_escapeByte (b : UInt8) : IsEncoded (escapeByte b) := by
  have hdigit : ∀ i : Fin 16, hexDigit i ∈ hexDigits := by decide
  have hb : b.toNat < 256 := b.toNat_lt
  exact .escape (hdigit ⟨b.toNat / 16, by omega⟩) (hdigit ⟨b.toNat % 16, by omega⟩) .nil

theorem isEncoded_encodeChars (cs : List Char) : IsEncoded (encodeChars cs) := by
  refine IsEncoded.flatMap fun c _ => ?_
  split
  · exact .singleton (.inr (by decide))
  · split
    · next hkept =>
      have hkeeps := (Bool.and_eq_true_iff.mp hkept).2
      simp only [keeps, Bool.or_eq_true, decide_eq_true_eq] at hkeeps
      refine .singleton (hkeeps.imp_right fun hmark => ?_)
      exact List.mem_append_left ['+'] hmark
    · exact IsEncoded.flatMap fun b _ => isEncoded_escapeByte b

theorem percentDecode_encodeChars (cs : List Char) :
    percentDecode ((encodeChars cs).map fun c => if c = '+' then ' ' else c) =
      cs.flatMap String.utf8EncodeChar := by
  induction cs with
  | nil => rfl
  | cons c cs ih =>
      rw [encodeChars, List.flatMap_cons, List.map_append, List.flatMap_cons, ← ih, ← encodeChars]
      split
      · next hspace =>
        rw [hspace]
        exact percentDecode_of_ne (by decide) _
      · split
        · next hkept =>
          rw [Bool.and_eq_true] at hkept
          have hplus : c ≠ '+' := by
            rintro rfl
            exact absurd hkept.2 (by decide)
          have hpercent : c ≠ '%' := by
            rintro rfl
            exact absurd hkept.2 (by decide)
          rw [List.map_singleton, if_neg hplus]
          exact percentDecode_of_ne hpercent _
        · have hmap : ((String.utf8EncodeChar c).flatMap escapeByte).map
              (fun c => if c = '+' then ' ' else c) =
                (String.utf8EncodeChar c).flatMap escapeByte := by
            refine (List.map_congr_left fun d hd => if_neg ?_).trans (List.map_id' _)
            rintro rfl
            obtain ⟨b, _, hplus⟩ := List.mem_flatMap.mp hd
            exact plus_not_mem_escapeByte b hplus
          rw [hmap, percentDecode_flatMap_escapeByte]

theorem decodeChars_encodeChars (cs : List Char) :
    decodeChars (encodeChars cs) = String.ofList cs := by
  rw [decodeChars, percentDecode_encodeChars, Text.Utf8.decodeLossy_flatMap]

theorem question_mem_decodeChars {cs : List Char} (h : '?' ∈ cs) :
    '?' ∈ (decodeChars cs).toList := by
  have hmap : '?' ∈ cs.map fun c => if c = '+' then ' ' else c :=
    List.mem_map.mpr ⟨'?', h, by decide⟩
  exact Text.Utf8.mem_decodeLossy (question_mem_percentDecode hmap) (by decide)

/-!
Pairs.
-/

theorem decodePair_encodeChars (key value : String) :
    decodePair (encodeChars key.toList ++ '=' :: encodeChars value.toList) = (key, value) := by
  have hkey : '=' ∉ encodeChars key.toList := by
    intro hmem
    exact (isWritten_clean (isWritten_of_mem_encodeChars hmem)).2.2 rfl
  rw [decodePair, Text.cutAt_append_cons hkey]
  simp only [decodeChars_encodeChars, String.ofList_toList]

def encodePair (pair : String × String) : List Char :=
  encodeChars pair.1.toList ++ '=' :: encodeChars pair.2.toList

theorem ampersand_not_mem_encodePair (pair : String × String) : '&' ∉ encodePair pair := by
  intro hmem
  rcases List.mem_append.mp hmem with hkey | hrest
  · exact (isWritten_clean (isWritten_of_mem_encodeChars hkey)).2.1 rfl
  · rcases List.mem_cons.mp hrest with hequals | hvalue
    · cases hequals
    · exact (isWritten_clean (isWritten_of_mem_encodeChars hvalue)).2.1 rfl

theorem pieces_encodePairs (pair : String × String) (pairs : List (String × String)) :
    Text.pieces '&' (encodePairs (pair :: pairs)) = (pair :: pairs).map encodePair := by
  induction pairs generalizing pair with
  | nil => exact Text.pieces_of_not_mem (ampersand_not_mem_encodePair pair)
  | cons next pairs ih =>
      rw [List.map_cons, ← ih next]
      exact Text.pieces_append_cons (ampersand_not_mem_encodePair pair) _

theorem decode_encode (pairs : List (String × String)) : decode (encode pairs) = pairs := by
  cases pairs with
  | nil => rfl
  | cons pair pairs =>
      have hpair : ∀ pair, decodePair (encodePair pair) = pair := fun (key, value) =>
        decodePair_encodeChars key value
      have hfilled : ∀ piece ∈ (pair :: pairs).map encodePair, decide (piece ≠ []) = true := by
        intro piece hpiece
        obtain ⟨other, _, rfl⟩ := List.mem_map.mp hpiece
        simp [encodePair]
      rw [decode, encode, String.toList_ofList, pieces_encodePairs, List.filter_eq_self.mpr hfilled,
        List.map_map]
      exact (List.map_congr_left fun pair _ => hpair pair).trans (List.map_id' _)

end Form

end Colloquy.Url
