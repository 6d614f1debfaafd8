/-!
# Binary numbers

A finite double is an integer times a power of two. Comparisons and shortest decimal texts are taken
on that exact value, never on a rounded one.
-/

namespace Diagnostics.Decimal

/-- The value `mantissa * 2 ^ exponent`, taken negative if `negative` is set. -/
structure Binary where
  negative : Bool
  mantissa : Nat
  exponent : Int
  deriving DecidableEq, Repr

/-- What a double stands for. -/
inductive Reading
  | finite (value : Binary)
  | infinite (negative : Bool)
  | notANumber
  deriving DecidableEq, Repr

/-- The bit in front of a mantissa of fifty-two bits. -/
def leadingBit : Nat := 0x10000000000000

/-- Read the three fields of a double: a sign, eleven bits of exponent and fifty-two bits of
mantissa, to which every exponent but the least adds a leading bit. -/
def Reading.ofBits (bits : Nat) : Reading :=
  let negative := (bits >>> 63) % 2 == 1
  let exponent : Nat := (bits >>> 52) % 0x800
  let mantissa := bits % leadingBit
  if exponent = 2047 then
    if mantissa = 0 then .infinite negative else .notANumber
  else if exponent = 0 then .finite ⟨negative, mantissa, -1074⟩
  else .finite ⟨negative, mantissa + leadingBit, (exponent : Int) - 1075⟩

/-- What a double stands for. -/
def read (x : Float) : Reading :=
  .ofBits x.toBits.toNat

/-- The numerator of the absolute value over the denominator below. -/
def Binary.numerator (b : Binary) : Nat :=
  b.mantissa <<< b.exponent.toNat

/-- The power of two below the numerator. -/
def Binary.denominator (b : Binary) : Nat :=
  1 <<< (-b.exponent).toNat

/-- The numerator with its sign; zero has none. -/
def Binary.signedNumerator (b : Binary) : Int :=
  if b.negative then -(b.numerator : Int) else b.numerator

/-- The greatest integer not above a binary number. -/
def Binary.floor (b : Binary) : Int :=
  Int.fdiv b.signedNumerator b.denominator

/-- The order of two binary numbers, found over a common denominator. -/
def Binary.order (a b : Binary) : Ordering :=
  compare (a.signedNumerator * b.denominator) (b.signedNumerator * a.denominator)

/-- An integer as a number. -/
def Reading.ofInt (n : Int) : Reading :=
  .finite ⟨n < 0, n.natAbs, 0⟩

/-- The order of two numbers; none if one of them is not a number. -/
def Reading.order? : Reading → Reading → Option Ordering
  | notANumber, _ => none
  | _, notANumber => none
  | infinite a, infinite b => some (compare b a)
  | infinite negative, finite _ => some (if negative then .lt else .gt)
  | finite _, infinite negative => some (if negative then .gt else .lt)
  | finite a, finite b => some (a.order b)

end Diagnostics.Decimal
