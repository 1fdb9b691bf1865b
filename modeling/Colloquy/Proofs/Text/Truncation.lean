import Colloquy.Proofs.Text.Utf8
import Mathlib.Data.List.Infix

/-!
Encoded text that is cut off after so many bytes.  The characters that fit are found again; if the
cut falls inside of a character, its bytes in front of the cut count as one malformed sequence.
-/

namespace Colloquy.Text.Utf8

namespace Decoding

theorem found_suffix_feed_idle (found : List Char) (b : UInt8) :
    found <:+ (feed ⟨found, none⟩ b).found := by
  rw [feed_idle]
  cases Lead.ofByte b with
  | char c => exact List.suffix_cons c found
  | begins pending => exact List.suffix_rfl
  | malformed => exact List.suffix_cons replacement found

/-- Characters that are found stay. -/
theorem found_suffix_feed (state : Decoding) (b : UInt8) :
    state.found <:+ (feed state b).found := by
  obtain ⟨found, pending⟩ := state
  cases pending with
  | none => exact found_suffix_feed_idle found b
  | some p =>
      by_cases hrange : p.low ≤ b ∧ b ≤ p.high
      · simp only [feed, if_pos hrange]
        split
        · exact List.suffix_cons _ found
        · exact List.suffix_rfl
      · rw [feed_of_not_mem_range hrange]
        exact (List.suffix_cons replacement found).trans (found_suffix_feed_idle _ b)

theorem found_suffix_foldl (bytes : List UInt8) (state : Decoding) :
    state.found <:+ (bytes.foldl feed state).found := by
  induction bytes generalizing state with
  | nil => exact List.suffix_rfl
  | cons b bytes ih => exact (found_suffix_feed state b).trans (ih (feed state b))

theorem length_lt_of_feed_idle {found : List Char} {b : UInt8}
    (h : (feed ⟨found, none⟩ b).pending = none) :
    found.length < (feed ⟨found, none⟩ b).found.length := by
  rw [feed_idle] at h ⊢
  cases hlead : Lead.ofByte b with
  | char c => exact Nat.lt_succ_self found.length
  | begins pending =>
      rw [hlead] at h
      cases h
  | malformed => exact Nat.lt_succ_self found.length

/-- A byte that leads to between characters has a character found. -/
theorem length_lt_of_feed {state : Decoding} {b : UInt8} (h : (feed state b).pending = none) :
    state.found.length < (feed state b).found.length := by
  obtain ⟨found, pending⟩ := state
  cases pending with
  | none => exact length_lt_of_feed_idle h
  | some p =>
      by_cases hrange : p.low ≤ b ∧ b ≤ p.high
      · simp only [feed, if_pos hrange] at h ⊢
        split
        · exact Nat.lt_succ_self found.length
        · next howed => simp [howed] at h
      · rw [feed_of_not_mem_range hrange] at h ⊢
        exact Nat.lt_trans (Nat.lt_succ_self found.length) (length_lt_of_feed_idle h)

theorem length_lt_of_foldl {bytes : List UInt8} {state : Decoding} (hne : bytes ≠ [])
    (h : (bytes.foldl feed state).pending = none) :
    state.found.length < (bytes.foldl feed state).found.length := by
  obtain ⟨front, b, rfl⟩ := (List.eq_nil_or_concat' bytes).resolve_left hne
  rw [List.foldl_concat] at h ⊢
  exact Nat.lt_of_le_of_lt (found_suffix_foldl front state).length_le (length_lt_of_feed h)

/-- Some but not all bytes of a character leave the machine inside of it. -/
theorem foldl_feed_take {c : Char} {count : Nat} (hpos : 0 < count)
    (hlt : count < (String.utf8EncodeChar c).length) (found : List Char) :
    ∃ p, ((String.utf8EncodeChar c).take count).foldl feed ⟨found, none⟩ = ⟨found, some p⟩ := by
  have hfront : (String.utf8EncodeChar c).take count ≠ [] :=
    List.ne_nil_of_length_pos (by rw [List.length_take]; omega)
  have hback : (String.utf8EncodeChar c).drop count ≠ [] :=
    List.ne_nil_of_length_pos (by rw [List.length_drop]; omega)
  have hwhole := foldl_feed_utf8EncodeChar c found
  rw [← List.take_append_drop count (String.utf8EncodeChar c), List.foldl_append] at hwhole
  cases hinside : ((String.utf8EncodeChar c).take count).foldl feed ⟨found, none⟩ with
  | mk inside pending =>
      rw [hinside] at hwhole
      -- The bytes behind the cut find the character, so those in front of it have found nothing.
      have hlater := length_lt_of_foldl hback (by rw [hwhole])
      have hsuffix := found_suffix_foldl ((String.utf8EncodeChar c).take count) ⟨found, none⟩
      rw [hwhole] at hlater
      rw [hinside] at hsuffix
      obtain rfl : found = inside := hsuffix.eq_of_length_le (Nat.le_of_lt_succ hlater)
      cases pending with
      | some p => exact ⟨p, rfl⟩
      | none =>
          have hearlier := length_lt_of_foldl hfront (by rw [hinside])
          rw [hinside] at hearlier
          exact absurd hearlier (Nat.lt_irrefl _)

end Decoding

/-- How many bytes characters take. -/
def width (cs : List Char) : Nat := (cs.flatMap String.utf8EncodeChar).length

theorem width_append (cs ds : List Char) : width (cs ++ ds) = width cs + width ds := by
  rw [width, List.flatMap_append, List.length_append]
  rfl

theorem width_singleton (c : Char) : width [c] = (String.utf8EncodeChar c).length := by
  rw [width, List.flatMap_singleton]

theorem width_le_of_prefix {cs ds : List Char} (h : cs <+: ds) : width cs ≤ width ds := by
  obtain ⟨more, rfl⟩ := h
  rw [width_append]
  exact Nat.le_add_right _ _

/-- As many of the characters as fit into so many bytes, and the rest. -/
structure FitsUpTo (limit : Nat) (kept rest : List Char) : Prop where
  fits : width kept ≤ limit
  stops : ∀ c ∈ rest.head?, limit < width (kept ++ [c])

theorem exists_fitsUpTo (limit : Nat) (cs : List Char) :
    ∃ kept rest, cs = kept ++ rest ∧ FitsUpTo limit kept rest := by
  induction cs generalizing limit with
  | nil => exact ⟨[], [], rfl, Nat.zero_le limit, fun c hc => nomatch hc⟩
  | cons c cs ih =>
      by_cases hfits : width [c] ≤ limit
      · obtain ⟨kept, rest, rfl, hfit, hstops⟩ := ih (limit - width [c])
        refine ⟨c :: kept, rest, rfl, ?_, fun d hd => ?_⟩
        · have hwidth := width_append [c] kept
          rw [List.singleton_append] at hwidth
          omega
        · have hnext := hstops d hd
          have hwidth := width_append [c] (kept ++ [d])
          rw [List.singleton_append, ← List.cons_append] at hwidth
          omega
      · refine ⟨[], c :: cs, rfl, Nat.zero_le limit, fun d hd => ?_⟩
        obtain rfl := Option.some.inj hd
        exact Nat.lt_of_not_le hfits

/-- So many bytes end between two bytes of one character. -/
def CutsCharacter (limit : Nat) (cs : List Char) : Prop :=
  ∃ front c back, cs = front ++ c :: back ∧ width front < limit ∧ limit < width (front ++ [c])

namespace FitsUpTo

variable {limit : Nat} {kept rest : List Char}

theorem prefix_kept (h : FitsUpTo limit kept rest) {other : List Char}
    (hbegin : other <+: kept ++ rest) (hfits : width other ≤ limit) : other <+: kept := by
  rcases List.prefix_or_prefix_of_prefix hbegin (List.prefix_append kept rest) with hless | hmore
  · exact hless
  · obtain ⟨more, rfl⟩ := hmore
    cases more with
    | nil => rw [List.append_nil]
    | cons c more =>
        obtain ⟨behind, hbehind⟩ := (List.prefix_append_right_inj kept).mp hbegin
        have hstops := h.stops c (by rw [← hbehind]; rfl)
        have hle : width (kept ++ [c]) ≤ width (kept ++ c :: more) :=
          width_le_of_prefix ((List.prefix_append_right_inj kept).mpr ⟨more, rfl⟩)
        omega

theorem cutsCharacter_iff (h : FitsUpTo limit kept rest) :
    CutsCharacter limit (kept ++ rest) ↔ rest ≠ [] ∧ width kept < limit := by
  constructor
  · rintro ⟨front, c, back, hwritten, hless, hmore⟩
    obtain ⟨more, rfl⟩ := h.prefix_kept ⟨c :: back, hwritten.symm⟩ (Nat.le_of_lt hless)
    cases more with
    | nil =>
        rw [List.append_nil] at hwritten ⊢
        rw [List.append_cancel_left hwritten]
        exact ⟨List.cons_ne_nil c back, hless⟩
    | cons d more =>
        -- The character that is cut would be among those that fit.
        rw [List.append_assoc, List.cons_append] at hwritten
        obtain ⟨rfl, _⟩ := List.cons.inj (List.append_cancel_left hwritten)
        have hle : width (front ++ [d]) ≤ width (front ++ d :: more) :=
          width_le_of_prefix ((List.prefix_append_right_inj front).mpr ⟨more, rfl⟩)
        exact absurd h.fits (Nat.not_le_of_lt (Nat.lt_of_lt_of_le hmore hle))
  · rintro ⟨hne, hlt⟩
    obtain ⟨c, back, rfl⟩ := List.exists_cons_of_ne_nil hne
    exact ⟨kept, c, back, rfl, hlt, h.stops c rfl⟩

theorem take_flatMap (h : FitsUpTo limit kept rest) :
    ((kept ++ rest).flatMap String.utf8EncodeChar).take limit =
      kept.flatMap String.utf8EncodeChar ++
        (rest.flatMap String.utf8EncodeChar).take (limit - width kept) := by
  rw [List.flatMap_append, List.take_append, List.take_of_length_le h.fits]
  rfl

theorem decodeLossy_of_not_cut (h : FitsUpTo limit kept rest)
    (hcut : ¬ CutsCharacter limit (kept ++ rest)) :
    decodeLossy (((kept ++ rest).flatMap String.utf8EncodeChar).take limit) =
      String.ofList kept := by
  rw [h.cutsCharacter_iff, not_and_or, not_not] at hcut
  have hrest : (rest.flatMap String.utf8EncodeChar).take (limit - width kept) = [] := by
    rcases hcut with rfl | hfull
    · rw [List.flatMap_nil, List.take_nil]
    · rw [Nat.sub_eq_zero_of_le (Nat.le_of_not_lt hfull), List.take_zero]
  rw [h.take_flatMap, hrest, List.append_nil, decodeLossy_flatMap]

theorem decodeLossy_of_cut (h : FitsUpTo limit kept rest)
    (hcut : CutsCharacter limit (kept ++ rest)) :
    decodeLossy (((kept ++ rest).flatMap String.utf8EncodeChar).take limit) =
      String.ofList (kept ++ [replacement]) := by
  obtain ⟨hne, hlt⟩ := h.cutsCharacter_iff.mp hcut
  obtain ⟨c, back, rfl⟩ := List.exists_cons_of_ne_nil hne
  have hstops := h.stops c rfl
  rw [width_append, width_singleton] at hstops
  have hrest : ((c :: back).flatMap String.utf8EncodeChar).take (limit - width kept) =
      (String.utf8EncodeChar c).take (limit - width kept) := by
    rw [List.flatMap_cons, List.take_append_of_le_length (by omega)]
  have hsome : 0 < limit - width kept := by omega
  have hless : limit - width kept < (String.utf8EncodeChar c).length := by omega
  obtain ⟨p, hinside⟩ := Decoding.foldl_feed_take hsome hless (kept.reverse ++ [])
  rw [h.take_flatMap, hrest, decodeLossy, Decoding.initial, List.foldl_append,
    Decoding.foldl_feed_encode, hinside]
  simp [Decoding.finish]

end FitsUpTo

/-- The longest beginning of a text that fits into so many bytes. -/
structure LongestFitting (limit : Nat) (text kept : String) : Prop where
  isPrefix : kept.toList <+: text.toList
  fits : (encode kept).length ≤ limit
  longest : ∀ other : String, other.toList <+: text.toList → (encode other).length ≤ limit →
    other.toList <+: kept.toList

theorem FitsUpTo.longestFitting {limit : Nat} {text : String} {kept rest : List Char}
    (h : FitsUpTo limit kept rest) (hwritten : text.toList = kept ++ rest) :
    LongestFitting limit text (String.ofList kept) where
  isPrefix := by
    rw [hwritten, String.toList_ofList]
    exact List.prefix_append kept rest
  fits := by
    rw [encode, String.toList_ofList]
    exact h.fits
  longest := by
    intro other hbegin hfits
    rw [hwritten] at hbegin
    rw [String.toList_ofList]
    exact h.prefix_kept hbegin hfits

/-- What is found of a text that is cut off after so many bytes: its longest beginning that fits,
and one replacement character if the cut falls inside of a character. -/
def IsExcerpt (limit : Nat) (text found : String) : Prop :=
  ∃ kept, LongestFitting limit text kept ∧
    (CutsCharacter limit text.toList → found = kept ++ "\uFFFD") ∧
    (¬ CutsCharacter limit text.toList → found = kept)

theorem isExcerpt_decodeLossy_take (limit : Nat) (text : String) :
    IsExcerpt limit text (decodeLossy ((encode text).take limit)) := by
  obtain ⟨kept, rest, hwritten, hfit⟩ := exists_fitsUpTo limit text.toList
  refine ⟨String.ofList kept, hfit.longestFitting hwritten, fun hcut => ?_, fun hcut => ?_⟩
  · rw [hwritten] at hcut
    rw [encode, hwritten, hfit.decodeLossy_of_cut hcut, String.ofList_append]
    rfl
  · rw [hwritten] at hcut
    rw [encode, hwritten, hfit.decodeLossy_of_not_cut hcut]

end Colloquy.Text.Utf8
