import Colloquy.Json.Scan

/-!
Numbers with their values.  A number is an integer as long as 64 bits hold it, and floating point
otherwise; a floating point number is written with the fewest digits that read back as the same
number.
-/

namespace Colloquy.Json

inductive Number where
  | natural (n : Nat)
  | negative (n : Nat)
  | real (x : Float)

/-!
Reading.
-/

/-- Goes on reading a numeral whose value so far is `value`, as long as it stays below `bound`:
the value, the number of digits taken, and the rest. -/
def accumulate (bound value : Nat) (input : List Char) : Nat × Nat × Left input :=
  match input with
  | [] => (value, 0, Left.all [])
  | c :: rest =>
    if c.isDigit && value * 10 + Text.digitValue c < bound then
      let (total, taken, left) := accumulate bound (value * 10 + Text.digitValue c) rest
      (total, taken + 1, ⟨left.1, Nat.le_succ_of_le left.2⟩)
    else (value, 0, Left.all (c :: rest))

def wordBound : Nat := 0x10000000000000000

private def signed (positive : Bool) (x : Float) : Float := if positive then x else -x

/-- `significand · 10 ^ exponent`, rounded at each of the steps in which large exponents are worked
off; none if it is too large. -/
private def scale (x : Float) (exponent : Int) : (steps : Nat) → Option Float
  | 0 => some x
  | steps + 1 =>
    if exponent.natAbs ≤ 308 then
      let power := Float.ofScientific 1 false exponent.natAbs
      if 0 ≤ exponent then
        let product := x * power
        if product.isInf then none else some product
      else some (x / power)
    else if x == 0 then some x
    else if 0 ≤ exponent then none
    else scale (x / 1e308) (exponent + 308) steps

private def realOf (positive : Bool) (significand : Nat) (exponent : Int) (rest : List Char) :
    Except Fault Number :=
  match scale significand.toUInt64.toFloat exponent 4 with
  | some x => .ok (.real (signed positive x))
  | none => .error (.before rest .numberOutOfRange)

private def readExponent (positive : Bool) (significand : Nat) (exponent : Int)
    (input : List Char) : Except Fault (Number × Left input) :=
  let (upward, start) : Bool × Left input := match input with
    | '+' :: rest => (true, Left.tail _ rest)
    | '-' :: rest => (false, Left.tail _ rest)
    | input => (true, Left.all input)
  if start.1.isEmpty then .error (.before [] .endInValue)
  else if !startsWithDigit start.1 then .error (.past start.1 .invalidNumber)
  else do
    let (shift, _, stop) := accumulate 0x80000000 0 start.1
    let last := skipDigits stop.1
    if startsWithDigit stop.1 then
      if significand ≠ 0 && upward then throw (.past stop.1 .numberOutOfRange)
      return (.real (signed positive 0.0),
        ⟨last.1, Nat.le_trans last.2 (Nat.le_trans stop.2 start.2)⟩)
    let total := if upward then exponent + shift else exponent - shift
    return (← realOf positive significand total stop.1, start.andThen stop)

def afterExponentLetter? (input : List Char) : Option (Left input) :=
  match input with
  | 'e' :: rest => some (Left.tail _ rest)
  | 'E' :: rest => some (Left.tail _ rest)
  | _ => none

/-- Finishes a number with the exponent that may follow. -/
private def finishReal (positive : Bool) (significand : Nat) (exponent : Int)
    (input : List Char) : Except Fault (Number × Left input) :=
  match afterExponentLetter? input with
  | some start => (readExponent positive significand exponent start.1).map fun (x, last) =>
    (x, start.andThen last)
  | none => (realOf positive significand exponent input).map fun x => (x, Left.all input)

/-- Reads on after a decimal point.  Digits that do not fit are left out. -/
private def readFraction (positive : Bool) (significand : Nat) (exponent : Int)
    (input : List Char) : Except Fault (Number × Left input) := do
  if !startsWithDigit input then
    throw (.past input (if input.isEmpty then .endInValue else .invalidNumber))
  let (total, taken, stop) := accumulate wordBound significand input
  let rest := skipDigits stop.1
  let (x, last) ← finishReal positive total (exponent - taken) rest.1
  return (x, ⟨last.1, Nat.le_trans last.2 (Nat.le_trans rest.2 stop.2)⟩)

/-- The digits at the front: a single zero, or as many as fit.  Their value, how many they are, and
the rest. -/
def readWhole (input : List Char) : Nat × Nat × Left input :=
  match input with
  | '0' :: rest => (0, 1, Left.tail _ rest)
  | input => accumulate wordBound 0 input

def readNumber (positive : Bool) (input : List Char) : Except Fault (Number × Left input) := do
  if input.isEmpty then throw (.before [] .endInValue)
  if !startsWithDigit input then throw (.past input .invalidNumber)
  let (significand, _, stop) := readWhole input
  if input.head? == some '0' && startsWithDigit stop.1 then throw (.past stop.1 .invalidNumber)
  let whole := skipDigits stop.1
  let exponent := stop.1.length - whole.1.length
  let widen := fun (x, (left : Left whole.1)) =>
    ((x, ⟨left.1, Nat.le_trans left.2 (Nat.le_trans whole.2 stop.2)⟩) : Number × Left input)
  match hrest : whole.1 with
  | '.' :: rest =>
    (readFraction positive significand exponent rest).map fun (x, last) =>
      widen (x, ⟨last.1, hrest ▸ Nat.le_succ_of_le last.2⟩)
  | _ =>
    if (afterExponentLetter? whole.1).isSome || 0 < exponent then
      (finishReal positive significand exponent whole.1).map widen
    else
      let value :=
        if positive then .natural significand
        else if significand = 0 ∨ 0x8000000000000000 < significand then
          .real (-significand.toUInt64.toFloat)
        else .negative significand
      return widen (value, Left.all whole.1)

/-!
Writing.
-/

/-- A positive number `mantissa · 2 ^ exponent` with the half-way marks to its neighbours, in units
of `2 ^ exponent`; the marks count as the number's own if `closed`. -/
private structure Interval where
  mantissa : Nat
  lower : Nat
  upper : Nat
  exponent : Int
  closed : Bool

private def intervalOf (bits : UInt64) : Interval :=
  let fraction := bits.toNat % 0x10000000000000
  let biased := bits.toNat / 0x10000000000000 % 0x800
  let mantissa := if biased = 0 then fraction else fraction + 0x10000000000000
  let exponent : Int := (if biased = 0 then 1 else biased : Nat) - 1075
  let below := if fraction = 0 ∧ 1 < biased then 1 else 2
  ⟨4 * mantissa, 4 * mantissa - below, 4 * mantissa + 2, exponent - 2, mantissa % 2 = 0⟩

/-- `n · 2 ^ twos · 10 ^ tens` compared with others of its kind: a common multiple. -/
private def scaled (n : Nat) (twos tens : Int) : Nat :=
  n * Nat.pow 2 twos.toNat * Nat.pow 10 tens.toNat

/-- The multiple of `10 ^ place` that lies in the interval nearest to the number, if there is
one. -/
private def nearest? (i : Interval) (place : Int) : Option Nat :=
  let unit := scaled 1 (-i.exponent) place
  let mark := fun n => scaled n i.exponent (-place)
  let low := mark i.mantissa / unit
  let within := fun n =>
    let value := n * unit
    if i.closed then mark i.lower ≤ value && value ≤ mark i.upper
    else mark i.lower < value && value < mark i.upper
  let candidates := [low, low + 1].filter within
  match candidates with
  | [] => none
  | [n] => some n
  | n :: m :: _ =>
    let above := m * unit - mark i.mantissa
    let below := mark i.mantissa - n * unit
    some (if above < below ∨ (above = below ∧ m % 2 = 0) then m else n)

/-- The first power of ten, from `place` downwards, with a multiple in the interval. -/
private def search (i : Interval) (place : Int) : (steps : Nat) → Nat × Int
  | 0 => (i.mantissa, place)
  | steps + 1 =>
    match nearest? i place with
    | some n => (n, place)
    | none => search i (place - 1) steps

/-- The fewest digits that read back, and the power of ten they are multiplied by. -/
private def shortest (bits : UInt64) : Nat × Int :=
  search (intervalOf bits) 309 700

/-- Floating point numbers are written in positional notation from `1e-5` up to, not including,
`1e16`, and with an exponent otherwise, which has a sign always. -/
def realText (x : Float) : String :=
  let sign := if x.toBits ≥ 0x8000000000000000 then "-" else ""
  if x == 0 then sign ++ "0.0"
  else
    let (n, place) := shortest x.toBits
    let digits := (toString n).toList
    let point : Int := digits.length + place
    let body :=
      if 0 ≤ place ∧ point ≤ 16 then
        digits ++ List.replicate place.toNat '0' ++ ['.', '0']
      else if 0 < point ∧ point ≤ 16 then
        digits.take point.toNat ++ '.' :: digits.drop point.toNat
      else if -5 < point ∧ point ≤ 0 then
        ['0', '.'] ++ List.replicate (-point).toNat '0' ++ digits
      else
        let fraction := if digits.length = 1 then [] else '.' :: digits.drop 1
        let mark := if point ≤ 0 then ['e'] else ['e', '+']
        digits.take 1 ++ fraction ++ mark ++ (toString (point - 1)).toList
    sign ++ String.ofList body

end Colloquy.Json
