/-!
# Floats as exact binary fractions

Every finite 64-bit float is `± mantissa · 2 ^ exponent`. `Binary.ofFloat` reads that form off the
bits, so that printing and rounding can be done in exact `Nat` arithmetic.

- `Binary`: a float taken apart;
- `isFinite`: neither infinite nor not-a-number;
- `place`: the place of a bit pattern in the total order, in which `-0.0` comes before `0.0`. What is not a
  number comes first or last, by its sign, and is told apart by its other bits.
-/

namespace Stopwatch.Decimal

/-- A float taken apart. -/
inductive Binary where
  | nan
  | infinite (negative : Bool)
  /-- The value `± mantissa · 2 ^ exponent`. -/
  | finite (negative : Bool) (mantissa : Nat) (exponent : Int)
deriving DecidableEq, Repr, Inhabited

namespace Binary

/-- The bit of the sign, the `2 ^ 63` of a bit pattern. -/
def signBit : Nat := 0x8000000000000000

/-- The bit that the mantissa of all but the least floats has in front, which is `2 ^ 52`. -/
def leadingBit : Nat := 0x10000000000000

/-- How many values the exponent bits have. -/
def exponentCount : Nat := 0x800

/-- The parts of a float: sign bit, eleven exponent bits, fifty-two fraction bits. -/
def ofFloat (x : Float) : Binary :=
  let bits : Nat := x.toBits.toNat
  let negative := decide (signBit ≤ bits)
  let biased : Nat := bits / leadingBit % exponentCount
  let fraction : Nat := bits % leadingBit
  if biased = exponentCount - 1 then
    if fraction = 0 then infinite negative else nan
  else if biased = 0 then
    finite negative fraction (-1074)
  else
    finite negative (leadingBit + fraction) ((biased : Int) - 1075)

/-- The half-way points between a positive float and its two neighbours lie at
`(4 * mantissa - below) / 4` and `(4 * mantissa + 2) / 4` in units of `2 ^ exponent`. The gap below a
power of two is half as wide as the gap above it, unless the exponent is already the least one. -/
def below (mantissa : Nat) (exponent : Int) : Nat :=
  if mantissa = leadingBit ∧ -1074 < exponent then 1 else 2

end Binary

/-- Neither infinite nor not-a-number: the exponent bits are not all set. -/
def isFinite (x : Float) : Bool :=
  x.toBits.toNat / Binary.leadingBit % Binary.exponentCount != Binary.exponentCount - 1

/-- The place of a bit pattern in the total order: the pattern as a signed integer, with all bits but that
of the sign turned around if it is negative. -/
def place (bits : UInt64) : Int64 :=
  let signed := bits.toInt64
  signed ^^^ ((signed >>> 63).toUInt64 >>> 1).toInt64

end Stopwatch.Decimal
