import Stopwatch.Decimal.Fixed

/-!
# Decimals with an exponent

`scientific digits x` writes the exact value of a float rounded to a number of significant digits, with one
of them in front of the point; `general` chooses between that and a fixed number of places by the size of
the value. Halves go to the even digit.
-/

namespace Stopwatch.Decimal

/-- The digits of a positive fraction, rounded to so many of them, and the exponent of the first one. -/
def significant (digits num den : Nat) : Nat × Int :=
  let guess : Int := ((Nat.toDigits 10 num).length : Int) - (Nat.toDigits 10 den).length - 1
  let scaled (exponent : Int) : Nat × Nat :=
    (num * Nat.pow 10 (-exponent).toNat, den * Nat.pow 10 exponent.toNat)
  let (above, below) := scaled (guess + 1)
  let exponent := if below ≤ above then guess + 1 else guess
  let (above, below) := scaled (exponent - (digits - 1 : Int))
  let rounded := roundHalfEven above below
  if rounded = Nat.pow 10 digits then (Nat.pow 10 (digits - 1), exponent + 1) else (rounded, exponent)

/-- An exponent with its sign and at least two digits. -/
def exponentText (exponent : Int) : List Char :=
  let digits := Nat.toDigits 10 exponent.natAbs
  (if exponent < 0 then '-' else '+') :: (List.replicate (2 - digits.length) '0' ++ digits)

/-- The text of a positive fraction, or of zero, with an exponent and so many places behind the point. -/
def scientific (places num den : Nat) : List Char :=
  let (digits, exponent) := if num = 0 then (0, 0) else significant (places + 1) num den
  placePoint places digits ++ 'e' :: exponentText exponent

/-- A decimal without the zeros at the end of its places. -/
def withoutTrailingZeros (text : List Char) : List Char :=
  let mantissa := text.takeWhile (· ≠ 'e')
  if !mantissa.contains '.' then text
  else
    let kept := mantissa.reverse.dropWhile (· = '0')
    (if kept.head? = some '.' then kept.tail else kept).reverse ++ text.drop mantissa.length

/-- The text of a positive fraction, or of zero, with so many significant digits: with an exponent if that
is less than -4 or not less than the number of digits. -/
def general (digits num den : Nat) : List Char :=
  let digits := max 1 digits
  let exponent := if num = 0 then 0 else (significant digits num den).2
  if exponent < -4 || (digits : Int) ≤ exponent then scientific (digits - 1) num den
  else
    let places := ((digits : Int) - 1 - exponent).toNat
    placePoint places (roundHalfEven (num * Nat.pow 10 places) den)

end Stopwatch.Decimal
