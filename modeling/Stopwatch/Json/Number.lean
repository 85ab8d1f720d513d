import Stopwatch.Decimal.Shortest
import Stopwatch.Json.Literal

/-!
# Numbers of a document

How machine numbers are written as literals and read from them.

- A finite float is written with the fewest digits that read back, positional from `0.00001` up to
  sixteen digits before the point, otherwise with an exponent.
- A literal is read as a float by taking its digits, as many as fit into 64 bits, as one float and
  scaling that float by one power of ten.
- An integer has neither point nor exponent.
-/

namespace Stopwatch.Json.Literal

open Stopwatch.Decimal (Binary Scientific)

/-! ### Writing -/

/-- The digits are written without an exponent if that of the first digit lies in this range. -/
def positionalFrom : Int := -5
def positionalTo : Int := 15

/-- A literal from decimal digits: the value is `digits · 10 ^ exponent`. -/
def ofScientific (negative : Bool) (d : Scientific) : Literal :=
  let ds := Nat.toDigits 10 d.digits
  let first : Int := d.exponent + ds.length - 1
  if positionalFrom ≤ first ∧ first ≤ positionalTo then
    if 0 ≤ d.exponent then ⟨negative, ds ++ List.replicate d.exponent.toNat '0', ['0'], none⟩
    else if 0 ≤ first then
      ⟨negative, ds.take (first.toNat + 1), ds.drop (first.toNat + 1), none⟩
    else ⟨negative, ['0'], List.replicate (-first - 1).toNat '0' ++ ds, none⟩
  else ⟨negative, ds.take 1, ds.drop 1, some ⟨decide (first < 0), first.natAbs⟩⟩

/-- The literal of a finite float. -/
def ofFloat? (x : Float) : Option Literal :=
  match Binary.ofFloat x with
  | .finite negative mantissa exponent =>
    if mantissa = 0 then some ⟨negative, ['0'], ['0'], none⟩
    else some (ofScientific negative (Decimal.Shortest.digits mantissa exponent))
  | _ => none

def ofNat (n : Nat) : Literal := ⟨false, Nat.toDigits 10 n, [], none⟩

def ofInt (n : Int) : Literal := ⟨decide (n < 0), Nat.toDigits 10 n.natAbs, [], none⟩

/-! ### Reading -/

/-- Whether a literal has neither point nor exponent. -/
def isInteger (n : Literal) : Bool := n.fraction.isEmpty && n.exponent.isNone

/-- The digits before the point. -/
def wholeValue (n : Literal) : Nat := Nat.ofDigitChars 10 n.whole 0

/-- An unsigned integer of 64 bits or fewer. -/
def toNat? (bits : Nat) (n : Literal) : Option Nat :=
  if n.isInteger ∧ n.negative = false ∧ n.wholeValue < Nat.pow 2 bits then some n.wholeValue else none

/-- A signed integer of 64 bits. Minus zero is not an integer. -/
def toInt? (n : Literal) : Option Int :=
  if n.isInteger then
    if n.negative then
      if 0 < n.wholeValue ∧ n.wholeValue ≤ 0x8000000000000000 then some (-(n.wholeValue : Int)) else none
    else if n.wholeValue < 0x8000000000000000 then some n.wholeValue
    else none
  else none

/-- Appends digits to a number as long as it stays below `2 ^ 64`; the digits that no longer fit
are left over. -/
def takeDigits (value : Nat) : List Char → Nat × List Char
  | [] => (value, [])
  | d :: ds =>
    let next := 10 * value + (d.toNat - 48)
    if next < 0x10000000000000000 then takeDigits next ds else (value, d :: ds)

/-- The power of ten nearest to `10 ^ n`. -/
def powerOfTen (n : Nat) : Float := Float.ofScientific 1 false n

/-- Divides by `10 ^ n`, in steps of `10 ^ 308`, the largest power of ten among the floats. -/
def scaleDown (x : Float) (n : Nat) : Float :=
  if n ≤ 308 then x / powerOfTen n
  else if x == 0.0 then x
  else scaleDown (x / powerOfTen 308) (n - 308)
termination_by n

/-- Multiplies by a power of ten; a result that is too large has no value. -/
def scale (x : Float) (exponent : Int) : Option Float :=
  if exponent < 0 then some (scaleDown x (-exponent).toNat)
  else if exponent ≤ 308 then
    let y := x * powerOfTen exponent.toNat
    if Decimal.isFinite y then some y else none
  else if x == 0.0 then some x
  else none

/-- The exponent as written. -/
def exponentValue (n : Literal) : Int :=
  match n.exponent with
  | none => 0
  | some e => if e.negative then -(e.value : Int) else e.value

/-- The float that a literal stands for, unless it is too large. -/
def toFloat? (n : Literal) : Option Float :=
  let (head, dropped) := takeDigits 0 n.whole
  let (value, unread) := takeDigits head n.fraction
  let read : Int := (n.fraction.length : Int) - unread.length
  (scale (Float.ofNat value) (dropped.length - read + n.exponentValue)).map fun x =>
    if n.negative then -x else x

end Stopwatch.Json.Literal
