import Stopwatch.Decimal.Binary

/-!
# Decimals with a fixed number of places

`fixed places x` writes the exact value of a float rounded to a number of decimal places; a value
half-way between two decimals goes to the even one. A value that rounds to zero keeps its minus sign.
-/

namespace Stopwatch.Decimal

/-- The natural number nearest to `num / den`; a tie goes to the even one. -/
def roundHalfEven (num den : Nat) : Nat :=
  let floor := num / den
  let rest := num % den
  if 2 * rest < den then floor
  else if 2 * rest = den then floor + floor % 2
  else floor + 1

/-- A decimal of so many places, from its digits without the point. -/
def placePoint (places digits : Nat) : List Char :=
  let whole := Nat.toDigits 10 (digits / Nat.pow 10 places)
  if places = 0 then whole
  else
    let part := Nat.toDigits 10 (digits % Nat.pow 10 places)
    whole ++ '.' :: (List.replicate (places - part.length) '0' ++ part)

/-- The text of a float with exactly so many decimal places. -/
def fixed (places : Nat) (x : Float) : String :=
  match Binary.ofFloat x with
  | .nan => "NaN"
  | .infinite negative => if negative then "-inf" else "inf"
  | .finite negative mantissa exponent =>
    let num := mantissa * Nat.pow 2 exponent.toNat * Nat.pow 10 places
    let den := Nat.pow 2 (-exponent).toNat
    let body := placePoint places (roundHalfEven num den)
    String.ofList (if negative then '-' :: body else body)

end Stopwatch.Decimal
