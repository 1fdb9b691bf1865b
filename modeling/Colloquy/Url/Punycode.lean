/-!
Names beyond ASCII in letters, digits and hyphens.  The ASCII characters of a name come first, and
after the last hyphen numbers tell where the others are put in, in the order of their codes.

A number is a sequence of digits in base 36, the least first.  A digit below a threshold is its
last; the thresholds follow the numbers read so far.
-/

namespace Colloquy.Url.Punycode

private def digit? (c : Char) : Option Nat :=
  if 'a' ≤ c ∧ c ≤ 'z' then some (c.toNat - 97)
  else if c.isDigit then some (c.toNat - 48 + 26)
  else none

/-- The threshold at a place within a number; places count in steps of 36. -/
private def threshold (bias place : Nat) : Nat := max 1 (min 26 (place - bias))

/-- How often `delta` goes down by a factor of 35 before it is small, and what is left. -/
private def shrink (delta : Nat) : Nat × Nat :=
  if 455 < delta then
    let (times, rest) := shrink (delta / 35)
    (times + 1, rest)
  else (0, delta)
termination_by delta
decreasing_by exact Nat.div_lt_self (by omega) (by omega)

/-- The bias after a number that put in one of `count` characters. -/
private def adapt (delta count : Nat) (first : Bool) : Nat :=
  let halved := if first then delta / 700 else delta / 2
  let (times, rest) := shrink (halved + halved / count)
  36 * times + 36 * rest / (rest + 38)

/-- The characters found so far.  The next number counts, from `position` on, the places where the
character `code` and those after it could be put in. -/
private structure Decoding where
  letters : List Char
  code : Nat
  position : Nat
  bias : Nat

private def Decoding.insert? (found : Decoding) (sum : Nat) : Option Decoding :=
  let count := found.letters.length + 1
  let code := found.code + sum / count
  let position := sum % count
  if code.isValidChar then
    some {
      letters := found.letters.insertIdx position (Char.ofNat code)
      code
      position := position + 1
      bias := adapt (sum - found.position) count (found.position = 0) }
  else none

/-- Reads on within a number: `sum` is what it comes to so far, and `weight` the value of a one at
this place. -/
private def readDigits (found : Decoding) (place weight sum : Nat) :
    List Char → Option (List Char)
  | [] => if place = 36 then some found.letters else none
  | c :: rest => do
    let digit ← digit? c
    let sum := sum + digit * weight
    let threshold := threshold found.bias place
    if 0x100000000 ≤ sum then none
    else if digit < threshold then
      let found ← found.insert? sum
      readDigits found 36 1 found.position rest
    else
      let weight := weight * (36 - threshold)
      if 0x100000000 ≤ weight then none else readDigits found (place + 36) weight sum rest

/-- The name that is spelled by letters, digits and hyphens, in lower case. -/
def decode? (spelled : List Char) : Option (List Char) :=
  let digits := (spelled.reverse.takeWhile (· ≠ '-')).reverse
  let letters := spelled.take (spelled.length - digits.length - 1)
  if letters = [] ∧ digits ≠ spelled then none
  else readDigits ⟨letters, 0x80, 0, 72⟩ 36 1 0 digits

end Colloquy.Url.Punycode
