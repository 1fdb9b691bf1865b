import Colloquy.Text.Utf8
import Mathlib.Tactic.IntervalCases
import Mathlib.Tactic.SplitIfs

/-!
Decoding undoes encoding: the bytes of a character take the machine from between characters back to
there, with that character found.
-/

namespace Colloquy.Text.Utf8

namespace Lead

theorem ofByte_one {n : Nat} (h : n < 128) :
    ofByte (UInt8.ofNat n) = .char (Char.ofNat n) := by
  have hbyte : (UInt8.ofNat n).toNat = n := UInt8.toNat_ofNat_of_lt' (Nat.lt_trans h (by decide))
  have hlt : UInt8.ofNat n < 0x80 := by
    rw [UInt8.lt_iff_toNat_lt, hbyte]
    exact h
  rw [ofByte, if_pos hlt, hbyte]

theorem ofByte_two {n : Nat} (hle : 2 ≤ n) (hlt : n < 32) :
    ofByte (UInt8.ofNat (n + 192)) = .begins ⟨n, 1, 0x80, 0xBF⟩ := by
  interval_cases n <;> rfl

theorem ofByte_three {n : Nat} (hlt : n < 16) :
    ofByte (UInt8.ofNat (n + 224)) =
      .begins ⟨n, 2, if n = 0 then 0xA0 else 0x80, if n = 13 then 0x9F else 0xBF⟩ := by
  interval_cases n <;> rfl

theorem ofByte_four {n : Nat} (hlt : n < 5) :
    ofByte (UInt8.ofNat (n + 240)) =
      .begins ⟨n, 3, if n = 0 then 0x90 else 0x80, if n = 4 then 0x8F else 0xBF⟩ := by
  interval_cases n <;> rfl

end Lead

namespace Decoding

variable {found : List Char} {value n : Nat} {low high : UInt8}

theorem toNat_tail (hn : n < 64) : (UInt8.ofNat (n + 128)).toNat = n + 128 :=
  UInt8.toNat_ofNat_of_lt' (Nat.lt_trans (Nat.add_lt_add_right hn 128) (by decide))

theorem tail_mem_range (hn : n < 64) (hlow : low.toNat ≤ n + 128) (hhigh : n + 128 ≤ high.toNat) :
    low ≤ UInt8.ofNat (n + 128) ∧ UInt8.ofNat (n + 128) ≤ high := by
  rw [UInt8.le_iff_toNat_le, UInt8.le_iff_toNat_le, toNat_tail hn]
  exact ⟨hlow, hhigh⟩

theorem feed_last (hn : n < 64) (hlow : low.toNat ≤ n + 128) (hhigh : n + 128 ≤ high.toNat) :
    feed ⟨found, some ⟨value, 1, low, high⟩⟩ (UInt8.ofNat (n + 128)) =
      ⟨Char.ofNat (value * 64 + n) :: found, none⟩ := by
  simp only [feed, if_pos (tail_mem_range hn hlow hhigh), toNat_tail hn, Nat.add_sub_cancel,
    Nat.le_refl, if_true]

theorem feed_more {owed : Nat} (hn : n < 64) (hlow : low.toNat ≤ n + 128)
    (hhigh : n + 128 ≤ high.toNat) :
    feed ⟨found, some ⟨value, owed + 2, low, high⟩⟩ (UInt8.ofNat (n + 128)) =
      ⟨found, some ⟨value * 64 + n, owed + 1, 0x80, 0xBF⟩⟩ := by
  have howed : ¬ owed + 2 ≤ 1 := by omega
  simp only [feed, if_pos (tail_mem_range hn hlow hhigh), toNat_tail hn, Nat.add_sub_cancel,
    if_neg howed]
  rfl

theorem feed_last_of_any (hn : n < 64) :
    feed ⟨found, some ⟨value, 1, 0x80, 0xBF⟩⟩ (UInt8.ofNat (n + 128)) =
      ⟨Char.ofNat (value * 64 + n) :: found, none⟩ := by
  apply feed_last hn
  · exact Nat.le_add_left 128 n
  · change n + 128 ≤ 191
    omega

/-- From between characters, the bytes of a character lead back to between characters. -/
theorem foldl_feed_utf8EncodeChar (c : Char) (found : List Char) :
    (String.utf8EncodeChar c).foldl feed ⟨found, none⟩ = ⟨c :: found, none⟩ := by
  have hvalid : c.val.toNat < 0xD800 ∨ 0xDFFF < c.val.toNat ∧ c.val.toNat < 0x110000 := c.valid
  have hchar : Char.ofNat c.val.toNat = c := Char.ofNat_toNat c
  fun_cases String.utf8EncodeChar c with
  | case1 v hone =>
      rw [List.foldl_cons, feed_idle, Lead.ofByte_one (by omega), hchar, List.foldl_nil]
  | case2 v hone htwo =>
      have hvalue : v / 64 % 32 * 64 + v % 64 = v := by omega
      rw [List.foldl_cons, feed_idle, Lead.ofByte_two (by omega) (by omega)]
      rw [List.foldl_cons, feed_last_of_any (by omega), hvalue, hchar, List.foldl_nil]
  | case3 v hone htwo hthree =>
      have hvalue : (v / 4096 % 16 * 64 + v / 64 % 64) * 64 + v % 64 = v := by omega
      rw [List.foldl_cons, feed_idle, Lead.ofByte_three (by omega)]
      rw [List.foldl_cons, feed_more (by omega) ?_ ?_]
      · rw [List.foldl_cons, feed_last_of_any (by omega), hvalue, hchar, List.foldl_nil]
      · split
        · change 160 ≤ _
          omega
        · change 128 ≤ _
          omega
      · split
        · change _ ≤ 159
          omega
        · change _ ≤ 191
          omega
  | case4 v hone htwo hthree =>
      have hvalue :
          ((v / 262144 % 8 * 64 + v / 4096 % 64) * 64 + v / 64 % 64) * 64 + v % 64 = v := by
        omega
      rw [List.foldl_cons, feed_idle, Lead.ofByte_four (by omega)]
      rw [List.foldl_cons, feed_more (by omega) ?_ ?_]
      · rw [List.foldl_cons, feed_more (by omega) (Nat.le_add_left 128 _) ?_]
        · rw [List.foldl_cons, feed_last_of_any (by omega), hvalue, hchar, List.foldl_nil]
        · change _ ≤ 191
          omega
      · split
        · change 144 ≤ _
          omega
        · change 128 ≤ _
          omega
      · split
        · change _ ≤ 143
          omega
        · change _ ≤ 191
          omega

theorem foldl_feed_encode (cs found : List Char) :
    (cs.flatMap String.utf8EncodeChar).foldl feed ⟨found, none⟩ =
      ⟨cs.reverse ++ found, none⟩ := by
  induction cs generalizing found with
  | nil => rfl
  | cons c cs ih =>
      rw [List.flatMap_cons, List.foldl_append, foldl_feed_utf8EncodeChar, ih]
      simp

end Decoding

theorem decodeLossy_flatMap (cs : List Char) :
    decodeLossy (cs.flatMap String.utf8EncodeChar) = String.ofList cs := by
  rw [decodeLossy, Decoding.initial, Decoding.foldl_feed_encode]
  simp [Decoding.finish]

/-!
What is lost to malformed sequences: no ASCII byte.
-/

theorem Lead.low_of_begins {b : UInt8} {pending : Pending} (h : ofByte b = .begins pending) :
    0x80 ≤ pending.low := by
  unfold ofByte at h
  split_ifs at h <;> rw [← Lead.begins.inj h] <;> exact UInt8.le_iff_toNat_le.mpr (by simp)

namespace Decoding

/-- No sequence goes on with an ASCII byte. -/
def Beyond (state : Decoding) : Prop := ∀ p ∈ state.pending, 0x80 ≤ p.low

/-- How a byte that does not go on with a sequence is taken. -/
theorem feed_none (found : List Char) (b : UInt8) :
    (feed ⟨found, none⟩ b).Beyond ∧ (∀ c ∈ found, c ∈ (feed ⟨found, none⟩ b).found) ∧
      (b < 0x80 → Char.ofNat b.toNat ∈ (feed ⟨found, none⟩ b).found) := by
  rw [feed_idle]
  cases hlead : Lead.ofByte b with
  | char c =>
      refine ⟨fun p hp => (nomatch hp), fun d hd => List.mem_cons_of_mem c hd, fun hb => ?_⟩
      rw [Lead.ofByte, if_pos hb] at hlead
      rw [Lead.char.inj hlead]
      exact List.mem_cons_self
  | begins pending =>
      refine ⟨fun p hp => ?_, fun d hd => hd, fun hb => ?_⟩
      · obtain rfl := Option.mem_some.mp hp
        exact Lead.low_of_begins hlead
      · rw [Lead.ofByte, if_pos hb] at hlead
        cases hlead
  | malformed =>
      refine ⟨fun p hp => (nomatch hp), fun d hd => List.mem_cons_of_mem _ hd, fun hb => ?_⟩
      rw [Lead.ofByte, if_pos hb] at hlead
      cases hlead

/-- A byte that cannot go on with a sequence is taken as if none had begun. -/
theorem feed_of_not_mem_range {found : List Char} {p : Pending} {b : UInt8}
    (h : ¬ (p.low ≤ b ∧ b ≤ p.high)) :
    feed ⟨found, some p⟩ b = feed ⟨replacement :: found, none⟩ b := by
  simp only [feed, if_neg h]

theorem feed_of_beyond {state : Decoding} (h : state.Beyond) (b : UInt8) :
    (feed state b).Beyond ∧ (∀ c ∈ state.found, c ∈ (feed state b).found) ∧
      (b < 0x80 → Char.ofNat b.toNat ∈ (feed state b).found) := by
  obtain ⟨found, pending⟩ := state
  cases pending with
  | none => exact feed_none found b
  | some p =>
      by_cases hrange : p.low ≤ b ∧ b ≤ p.high
      · have hascii : ¬ b < 0x80 := UInt8.not_lt.mpr (UInt8.le_trans (h p rfl) hrange.1)
        simp only [feed, if_pos hrange]
        split
        · exact ⟨fun q hq => (nomatch hq), fun c hc => List.mem_cons_of_mem _ hc,
            fun hb => absurd hb hascii⟩
        · refine ⟨fun q hq => ?_, fun c hc => hc, fun hb => absurd hb hascii⟩
          obtain rfl := Option.mem_some.mp hq
          exact UInt8.le_refl _
      · rw [feed_of_not_mem_range hrange]
        obtain ⟨hbeyond, hkept, hascii⟩ := feed_none (replacement :: found) b
        exact ⟨hbeyond, fun c hc => hkept c (List.mem_cons_of_mem _ hc), hascii⟩

theorem mem_foldl_feed {bytes : List UInt8} {state : Decoding} (h : state.Beyond) :
    (∀ c ∈ state.found, c ∈ (bytes.foldl feed state).found) ∧
      ∀ b ∈ bytes, b < 0x80 → Char.ofNat b.toNat ∈ (bytes.foldl feed state).found := by
  induction bytes generalizing state with
  | nil => exact ⟨fun c hc => hc, fun b hb => (nomatch hb)⟩
  | cons first bytes ih =>
      obtain ⟨hbeyond, hkept, hascii⟩ := feed_of_beyond h first
      obtain ⟨hlater, hothers⟩ := ih hbeyond
      refine ⟨fun c hc => hlater c (hkept c hc), fun b hb hlt => ?_⟩
      rcases List.mem_cons.mp hb with rfl | hb
      · exact hlater _ (hascii hlt)
      · exact hothers b hb hlt

theorem mem_finish {state : Decoding} {c : Char} (h : c ∈ state.found) : c ∈ state.finish := by
  unfold finish
  split
  · exact List.mem_reverse.mpr h
  · exact List.mem_reverse.mpr (List.mem_cons_of_mem _ h)

end Decoding

/-- ASCII bytes are never part of anything else. -/
theorem mem_decodeLossy {bytes : List UInt8} {b : UInt8} (h : b ∈ bytes) (hascii : b < 0x80) :
    Char.ofNat b.toNat ∈ (decodeLossy bytes).toList := by
  rw [decodeLossy, String.toList_ofList]
  have hbeyond : Decoding.initial.Beyond := fun p hp => (nomatch hp)
  exact Decoding.mem_finish ((Decoding.mem_foldl_feed hbeyond).2 b h hascii)

end Colloquy.Text.Utf8
