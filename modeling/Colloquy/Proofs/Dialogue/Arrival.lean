import Colloquy.Dialogue.Composer
import Colloquy.Proofs.Text.Truncation

/-!
Reading the body of a response.  What is held after any number of chunks is the beginning of what
has arrived, as far as it goes within the limit, so the outcome is the same however the body is cut
into chunks.
-/

namespace Colloquy.Composer

variable {limit : Nat} {body : List UInt8}

theorem appendCapped_eq (h : body.length ≤ limit) (chunk : List UInt8) :
    appendCapped limit body chunk = (body ++ chunk).take limit := by
  rw [appendCapped, List.take_append, List.take_of_length_le h]

theorem length_appendCapped_le (h : body.length ≤ limit) (chunk : List UInt8) :
    (appendCapped limit body chunk).length ≤ limit := by
  rw [appendCapped_eq h]
  exact List.length_take_le limit _

/-- What is held after chunks have arrived. -/
def held (limit : Nat) (body : List UInt8) (chunks : List (List UInt8)) : List UInt8 :=
  chunks.foldl (appendCapped limit) body

theorem take_append_of_take {α : Type} (limit : Nat) (front back : List α) :
    (front.take limit ++ back).take limit = (front ++ back).take limit := by
  rw [List.take_append, List.take_append, List.take_take, Nat.min_self, List.length_take]
  congr 2
  omega

theorem held_eq (h : body.length ≤ limit) (chunks : List (List UInt8)) :
    held limit body chunks = (body ++ chunks.flatten).take limit := by
  induction chunks generalizing body with
  | nil =>
      rw [List.flatten_nil, List.append_nil, List.take_of_length_le h]
      rfl
  | cons chunk chunks ih =>
      calc held limit body (chunk :: chunks)
          = held limit (appendCapped limit body chunk) chunks := rfl
        _ = ((body ++ chunk).take limit ++ chunks.flatten).take limit := by
            rw [ih (length_appendCapped_le h chunk), appendCapped_eq h]
        _ = (body ++ (chunk :: chunks).flatten).take limit := by
            rw [take_append_of_take, List.flatten_cons, List.append_assoc]

theorem held_of_full (h : body.length = limit) (chunks : List (List UInt8)) :
    held limit body chunks = body := by
  rw [held_eq (Nat.le_of_eq h), List.take_append_of_le_length (Nat.le_of_eq h.symm),
    List.take_of_length_le (Nat.le_of_eq h)]

theorem length_held_le (h : body.length ≤ limit) (chunks : List (List UInt8)) :
    (held limit body chunks).length ≤ limit := by
  rw [held_eq h]
  exact List.length_take_le limit _

/-- Reading goes on from what is held after some chunks, unless the limit is reached by then. -/
theorem readCapped_append (breaksOff : Bool) (h : body.length < limit)
    (front rest : List (List UInt8)) :
    readCapped limit breaksOff body (front ++ rest) =
      if (held limit body front).length < limit then
        readCapped limit breaksOff (held limit body front) rest
      else .ok (held limit body front) := by
  induction front generalizing body with
  | nil => exact (if_pos h).symm
  | cons chunk front ih =>
      have hle := length_appendCapped_le (Nat.le_of_lt h) chunk
      have hheld : held limit body (chunk :: front) =
          held limit (appendCapped limit body chunk) front := rfl
      rw [List.cons_append, readCapped, hheld]
      by_cases hfull : limit ≤ (appendCapped limit body chunk).length
      · rw [if_pos hfull, held_of_full (Nat.le_antisymm hle hfull),
          if_neg (Nat.not_lt_of_le hfull)]
      · rw [if_neg hfull, ih (Nat.lt_of_not_le hfull)]

theorem readCapped_eq (breaksOff : Bool) (h : 0 < limit) (chunks : List (List UInt8)) :
    readCapped limit breaksOff [] chunks =
      if chunks.flatten.length < limit ∧ breaksOff = true then .error .body
      else .ok (chunks.flatten.take limit) := by
  have hempty : ([] : List UInt8).length < limit := h
  have hread := readCapped_append breaksOff hempty chunks []
  have hless : min limit chunks.flatten.length < limit ↔ chunks.flatten.length < limit := by omega
  rw [List.append_nil, held_eq (Nat.zero_le limit), List.nil_append, List.length_take] at hread
  rw [hread, readCapped, if_congr hless rfl rfl, ite_and]

theorem text_eq (arrival : Arrival) :
    arrival.text =
      if arrival.chunks.flatten.length < bodyLimit ∧ arrival.breaksOff = true then .error .body
      else .ok (Text.Utf8.decodeLossy (arrival.chunks.flatten.take bodyLimit)) := by
  rw [Arrival.text, readCapped_eq _ (by decide)]
  split <;> rfl

/-- What holds when some chunks have arrived: the beginning of them is held, never more than the
limit, and reading goes on from there or is over. -/
structure HoldsBeginning (arrival : Arrival) (front rest : List (List UInt8)) : Prop where
  held_eq_take : held bodyLimit [] front = front.flatten.take bodyLimit
  length_le : (held bodyLimit [] front).length ≤ 512000
  resumes : readCapped bodyLimit arrival.breaksOff [] arrival.chunks =
    if (held bodyLimit [] front).length < bodyLimit then
      readCapped bodyLimit arrival.breaksOff (held bodyLimit [] front) rest
    else .ok (held bodyLimit [] front)

theorem holdsBeginning {arrival : Arrival} {front rest : List (List UInt8)}
    (h : arrival.chunks = front ++ rest) : HoldsBeginning arrival front rest where
  held_eq_take := held_eq (Nat.zero_le bodyLimit) front
  length_le := length_held_le (Nat.zero_le bodyLimit) front
  resumes := by
    rw [h]
    exact readCapped_append arrival.breaksOff (by decide) front rest

theorem text_of_reached {arrival : Arrival}
    (h : arrival.breaksOff = false ∨ bodyLimit ≤ arrival.chunks.flatten.length) :
    arrival.text = .ok (Text.Utf8.decodeLossy (arrival.chunks.flatten.take bodyLimit)) := by
  rw [text_eq, if_neg]
  rintro ⟨hless, hbreaks⟩
  rcases h with hwhole | hle
  · rw [hbreaks] at hwhole
    cases hwhole
  · exact absurd hle (Nat.not_le_of_lt hless)

/-- However a body is cut into chunks, the reply is its beginning, as far as it counts, unless it
breaks off before there is that much of it. -/
theorem text_of_chunks (arrival : Arrival) :
    (∀ front rest, arrival.chunks = front ++ rest → HoldsBeginning arrival front rest) ∧
      (arrival.breaksOff = false ∨ 512000 ≤ arrival.chunks.flatten.length →
        ∃ reply, arrival.text = .ok reply ∧
          reply = Text.Utf8.decodeLossy (arrival.chunks.flatten.take 512000) ∧
          ∀ text, arrival.chunks.flatten = Text.Utf8.encode text →
            Text.Utf8.IsExcerpt 512000 text reply) ∧
      (arrival.breaksOff = true → arrival.chunks.flatten.length < 512000 →
        ∃ fault, arrival.text = .error fault ∧ fault.report.code = "COMPOSE_READ") := by
  refine ⟨fun front rest => holdsBeginning, fun hreached => ?_, fun hbreaks hless => ?_⟩
  · refine ⟨_, text_of_reached hreached, rfl, fun text hbody => ?_⟩
    rw [hbody]
    exact Text.Utf8.isExcerpt_decodeLossy_take bodyLimit text
  · refine ⟨.body, ?_, rfl⟩
    rw [text_eq, if_pos ⟨hless, hbreaks⟩]

/-- A body of so many letters and one more character of two bytes, in three chunks, one of them
empty, after which it breaks off. -/
def accented (letters : Nat) : Arrival where
  chunks := [List.replicate letters 0x61, [], [0xC3, 0xBC]]
  breaksOff := true

def accentedText (letters : Nat) : String :=
  String.ofList (List.replicate letters 'a' ++ ['\u00fc'])

theorem flatten_accented (letters : Nat) :
    (accented letters).chunks.flatten = List.replicate letters 0x61 ++ [0xC3, 0xBC] := by
  simp [accented]

theorem encode_accentedText (letters : Nat) :
    (accented letters).chunks.flatten = Text.Utf8.encode (accentedText letters) := by
  have hletter : String.utf8EncodeChar 'a' = [0x61] := by decide
  have hlast : ['\u00fc'].flatMap String.utf8EncodeChar = [0xC3, 0xBC] := by decide
  rw [flatten_accented, Text.Utf8.encode, accentedText, String.toList_ofList,
    List.flatMap_append, hlast, List.flatMap_replicate, hletter, List.flatten_replicate_singleton]

/-- The limit falls inside of the last character, and the break behind it does not matter; but it
does after a single letter. -/
theorem text_of_chunks_accented :
    (accented 511999).chunks = [List.replicate 511999 0x61] ++ [[], [0xC3, 0xBC]] ∧
      HoldsBeginning (accented 511999) [List.replicate 511999 0x61] [[], [0xC3, 0xBC]] ∧
      512000 ≤ (accented 511999).chunks.flatten.length ∧
      (accented 511999).chunks.flatten = Text.Utf8.encode (accentedText 511999) ∧
      (∃ reply, (accented 511999).text = .ok reply ∧
        Text.Utf8.IsExcerpt 512000 (accentedText 511999) reply) ∧
      ∃ fault, (accented 1).text = .error fault ∧ fault.report.code = "COMPOSE_READ" := by
  have hchunks : (accented 511999).chunks =
      [List.replicate 511999 0x61] ++ [[], [0xC3, 0xBC]] := rfl
  have hlength : 512000 ≤ (accented 511999).chunks.flatten.length := by
    rw [flatten_accented, List.length_append, List.length_replicate]
    decide
  obtain ⟨reply, hreply, _, hexcerpt⟩ := (text_of_chunks (accented 511999)).2.1 (.inr hlength)
  refine ⟨hchunks, (text_of_chunks _).1 _ _ hchunks, hlength, encode_accentedText 511999,
    ⟨reply, hreply, hexcerpt _ (encode_accentedText 511999)⟩, ?_⟩
  exact (text_of_chunks (accented 1)).2.2 rfl (by decide)

end Colloquy.Composer
