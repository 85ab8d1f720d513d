import Stopwatch.Decimal.Binary

/-!
# The shortest decimal that reads back

Around each positive float lies the interval of reals that round to it. `Shortest.digits` looks for
the coarsest power-of-ten grid with a point in that interval and takes the point nearest to the
float: no decimal with fewer digits reads back as the same float, and none of that length is nearer.
-/

namespace Stopwatch.Decimal

/-- The decimal `digits · 10 ^ exponent`. -/
structure Scientific where
  digits : Nat
  exponent : Int
deriving DecidableEq, Repr, Inhabited

namespace Shortest

/-- A positive float `centre / scale` with the ends of the interval that rounds to it. -/
structure Interval where
  lower : Nat
  centre : Nat
  upper : Nat
  scale : Nat
  /-- Whether the two ends themselves round to the float: so it is for an even mantissa. -/
  closed : Bool
deriving Repr

/-- The interval of the float `mantissa · 2 ^ exponent`, over one common denominator. -/
def Interval.of (mantissa : Nat) (exponent : Int) : Interval :=
  let up := Nat.pow 2 (exponent - 2).toNat
  { lower := (4 * mantissa - Binary.below mantissa exponent) * up
    centre := 4 * mantissa * up
    upper := (4 * mantissa + 2) * up
    scale := Nat.pow 2 (2 - exponent).toNat
    closed := mantissa % 2 == 0 }

/-- Whether the decimal lies in the interval. -/
def Interval.contains (i : Interval) (d : Scientific) : Bool :=
  let point := d.digits * Nat.pow 10 d.exponent.toNat * i.scale
  let shift := Nat.pow 10 (-d.exponent).toNat
  if i.closed then
    decide (i.lower * shift ≤ point) && decide (point ≤ i.upper * shift)
  else
    decide (i.lower * shift < point) && decide (point < i.upper * shift)

/-- The nearest multiple of `10 ^ exponent` that lies in the interval, if there is one: of the two
neighbours of the float on that grid the nearer, and of two equally near ones the even one. -/
def Interval.onGrid (i : Interval) (exponent : Int) : Option Scientific :=
  let unit := Nat.pow 10 exponent.toNat * i.scale
  let value := i.centre * Nat.pow 10 (-exponent).toNat
  let floor := value / unit
  let rest := value % unit
  let low : Scientific := ⟨floor, exponent⟩
  let high : Scientific := ⟨floor + 1, exponent⟩
  let lowFirst := decide (2 * rest < unit) || (decide (2 * rest = unit) && floor % 2 == 0)
  let (near, far) := if lowFirst then (low, high) else (high, low)
  if i.contains near then some near
  else if i.contains far then some far
  else none

/-- The first grid with a point in the interval, going down from `exponent` by `steps` grids. -/
def Interval.coarsest (i : Interval) : (steps : Nat) → (exponent : Int) → Option Scientific
  | 0, _ => none
  | steps + 1, exponent =>
    match i.onGrid exponent with
    | some d => some d
    | none => i.coarsest steps (exponent - 1)

/-- Every binary fraction is a decimal: `m · 2 ^ -n = m · 5 ^ n · 10 ^ -n`. -/
def exact (mantissa : Nat) (exponent : Int) : Scientific :=
  if 0 ≤ exponent then ⟨mantissa * Nat.pow 2 exponent.toNat, 0⟩
  else ⟨mantissa * Nat.pow 5 (-exponent).toNat, exponent⟩

/-- An exponent `e` with `mantissa · 2 ^ exponent < 10 ^ e`, from `log₁₀ 2 < 0.30103`, for the search
to start at. -/
def ceiling (mantissa : Nat) (exponent : Int) : Int :=
  ((mantissa.log2 : Int) + exponent + 2) * 30103 / 100000 + 1

/-- Drops the zeros at the end of the digits, `fuel` of them at most. -/
def strip : (fuel : Nat) → Scientific → Scientific
  | 0, d => d
  | fuel + 1, d =>
    if d.digits % 10 = 0 ∧ d.digits ≠ 0 then strip fuel ⟨d.digits / 10, d.exponent + 1⟩ else d

/-- The shortest decimal that reads back as `mantissa · 2 ^ exponent`, for a positive mantissa. -/
def digits (mantissa : Nat) (exponent : Int) : Scientific :=
  match (Interval.of mantissa exponent).coarsest 20 (ceiling mantissa exponent) with
  | some d => strip 20 d
  | none => exact mantissa exponent

end Shortest

end Stopwatch.Decimal
