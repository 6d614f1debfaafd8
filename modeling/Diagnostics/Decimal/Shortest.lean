import Diagnostics.Decimal.Binary

/-!
# Shortest decimals

The shortest decimal of a positive binary number is the one with the fewest digits among those that
round to the number, and of these the nearest. The decimals that round to it form an interval, so
it is enough to look, for one digit, two digits and so on, at the two neighbours of the number on
the grid of decimals with that many digits.
-/

namespace Diagnostics.Decimal

/-- The decimal `digits * 10 ^ exponent`. -/
structure Scientific where
  digits : Nat
  exponent : Int
  deriving DecidableEq, Repr

/-- The least `k` from `start` on, trying `fuel` numbers, for which `a * 10 ^ k` is at least `b`. -/
def powerReaching (a b : Nat) : Nat → Nat → Nat
  | 0, k => k
  | fuel + 1, k => if b ≤ a * Nat.pow 10 k then k else powerReaching a b fuel (k + 1)

/-- The exponent of the leading decimal digit of `a / b`. No double needs more than 330 steps. -/
def leadingExponent (a b : Nat) : Int :=
  if b ≤ a then (powerReaching b (a + 1) 330 0 : Int) - 1 else -(powerReaching a b 330 0 : Int)

/-- The real numbers that round to a binary number, in quarters of its last place: from `low` to
`high` with `middle` the number itself. A power of two is nearer to its lower neighbour. -/
structure Interval where
  low : Nat
  middle : Nat
  high : Nat
  closed : Bool

/-- The interval that rounds to a binary number. Its ends belong to it if the mantissa is even. -/
def Interval.of (b : Binary) : Interval where
  low := if b.mantissa = leadingBit ∧ b.exponent ≠ -1074 then 4 * b.mantissa - 1
    else 4 * b.mantissa - 2
  middle := 4 * b.mantissa
  high := 4 * b.mantissa + 2
  closed := b.mantissa % 2 == 0

/-- Whether `n * a` lies within `low * b` and `high * b`. -/
def Interval.holds (i : Interval) (a b n : Nat) : Bool :=
  if i.closed then i.low * b ≤ n * a && n * a ≤ i.high * b
  else i.low * b < n * a && n * a < i.high * b

/-- The neighbour of `middle * b / a` that rounds to the number, the nearer if both do, the even one
if both are equally near. -/
def Interval.neighbour? (i : Interval) (a b : Nat) : Option Nat :=
  let down := i.middle * b / a
  let up := down + 1
  match i.holds a b down, i.holds a b up with
  | false, false => none
  | true, false => some down
  | false, true => some up
  | true, true =>
    let below := i.middle * b - down * a
    let above := up * a - i.middle * b
    if below < above then some down
    else if above < below then some up
    else some (if down % 2 = 0 then down else up)

/-- Search the grids of `count`, `count + 1`, … digits. Seventeen digits tell all doubles apart. -/
def searchGrid (i : Interval) (b : Binary) (leading : Int) : Nat → Nat → Option Scientific
  | 0, _ => none
  | fuel + 1, count =>
    let exponent := leading - count + 1
    -- `n * 10 ^ exponent` against quarters of the last place, cleared of denominators
    let grid := (4 * Nat.pow 10 exponent.toNat) <<< (-b.exponent).toNat
    let place := Nat.pow 10 (-exponent).toNat <<< b.exponent.toNat
    match i.neighbour? grid place with
    | some digits => some ⟨digits, exponent⟩
    | none => searchGrid i b leading fuel (count + 1)

/-- Move trailing zeros of the digits into the exponent, at most `fuel` of them. -/
def Scientific.stripZeros : Nat → Scientific → Scientific
  | 0, s => s
  | fuel + 1, s =>
    if s.digits ≠ 0 ∧ s.digits % 10 = 0 then stripZeros fuel ⟨s.digits / 10, s.exponent + 1⟩ else s

/-- The shortest decimal that rounds to a binary number. -/
def shortest (b : Binary) : Scientific :=
  if b.mantissa = 0 then ⟨0, 0⟩
  else
    let leading := leadingExponent b.numerator b.denominator
    match searchGrid (.of b) b leading 17 1 with
    | some s => s.stripZeros 20
    | none => ⟨b.numerator / b.denominator, 0⟩

end Diagnostics.Decimal
