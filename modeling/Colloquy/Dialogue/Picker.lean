/-!
Picking one of several replies at random: a generator of 32-bit words, and words that would favour
some of the choices passed over.
-/

namespace Colloquy

/-- A generator, whose state goes round all words in steps of one size. -/
structure Picker where
  state : UInt32
deriving DecidableEq, Repr

namespace Picker

def step : UInt32 := 0x6d2b79f5

def mix (state : UInt32) : UInt32 :=
  let a := (state ^^^ (state >>> 15)) * (state ||| 1)
  let b := a ^^^ (a + (a ^^^ (a >>> 7)) * (a ||| 61))
  b ^^^ (b >>> 14)

def draw (picker : Picker) : UInt32 × Picker :=
  let state := picker.state + step
  (mix state, ⟨state⟩)

def words : Nat := 0x100000000

/-- The largest multiple of `bound` that is not above the number of words: below it, each remainder
comes up equally often. -/
def threshold (bound : Nat) : Nat := words / bound * bound

theorem threshold_le (bound : Nat) : threshold bound ≤ words := Nat.div_mul_le_self ..

theorem dvd_threshold (bound : Nat) : bound ∣ threshold bound := Nat.dvd_mul_left ..

/-- The first candidate that lies below the limit, if so many draws come to one. -/
def firstBelow {σ : Type} (next : σ → UInt32 × σ) (limit : Nat) : Nat → σ → Option (Nat × σ)
  | 0, _ => none
  | draws + 1, state =>
    let (candidate, state) := next state
    if candidate.toNat < limit then some (candidate.toNat, state)
    else firstBelow next limit draws state

/-- A number below `bound`, from a source of candidates, if so many of them are enough. -/
def choose? {σ : Type} (next : σ → UInt32 × σ) (bound draws : Nat) (state : σ) :
    Option (Nat × σ) :=
  (firstBelow next (threshold bound) draws state).map fun (candidate, state) =>
    (candidate % bound, state)

/-- The number that is chosen.  As many candidates as there are words are enough for a generator
that goes round all of them. -/
def choose {σ : Type} (next : σ → UInt32 × σ) (bound : Nat) (state : σ) : Nat × σ :=
  (choose? next bound words state).getD (0, state)

/-- A position in a list of so many items; lists with less than two items take no draw. -/
def pick (picker : Picker) (count : Nat) : Nat × Picker :=
  if count ≤ 1 then (0, picker) else choose draw (min count (words - 1)) picker

theorem pick_of_le_one {count : Nat} (h : count ≤ 1) (picker : Picker) :
    picker.pick count = (0, picker) := if_pos h

end Picker

end Colloquy
