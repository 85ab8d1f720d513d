import Stopwatch.Decimal.Binary

/-!
# Reading a decimal exactly

`Decimal.read?` reads a whole text as a float: an optional sign, then `inf`, `infinity` or `nan` in
any case, or digits with an optional point and an optional exponent. The value is rounded once,
correctly.
-/

namespace Stopwatch.Decimal

/-- The largest exponent whose size matters: beyond it every decimal of the given length is infinite
or zero. -/
def exponentLimit (length : Nat) : Nat := length + 800

/-- `digits · 10 ^ exponent` rounded to the nearest float. -/
def nearest (digits : Nat) (exponent : Int) : Float :=
  if exponent < 0 then Float.ofScientific digits true (-exponent).toNat
  else Float.ofScientific digits false exponent.toNat

/-- The exponent part: empty, or `e` with an optional sign and at least one digit. -/
def exponentPart? : List Char → Option Int
  | [] => some 0
  | c :: rest =>
    if c = 'e' || c = 'E' then
      let (negative, ds) := match rest with
        | '+' :: ds => (false, ds)
        | '-' :: ds => (true, ds)
        | ds => (false, ds)
      if ds.isEmpty || !ds.all Char.isDigit then none
      else
        let n := Nat.ofDigitChars 10 ds 0
        some (if negative then -(n : Int) else n)
    else none

/-- An unsigned decimal such as `12`, `1.5`, `.5`, `5.` or `1e-3`. -/
def unsigned? (cs : List Char) : Option Float :=
  let whole := cs.takeWhile Char.isDigit
  let (fraction, rest) := match cs.dropWhile Char.isDigit with
    | '.' :: more => (more.takeWhile Char.isDigit, more.dropWhile Char.isDigit)
    | other => ([], other)
  if whole.isEmpty && fraction.isEmpty then none
  else
    (exponentPart? rest).map fun e =>
      let limit : Int := exponentLimit (whole.length + fraction.length)
      let clamped := max (-limit) (min limit e)
      nearest (Nat.ofDigitChars 10 (whole ++ fraction) 0) (clamped - fraction.length)

/-- A decimal without its sign, or one of the three words. -/
def magnitude? (cs : List Char) : Option Float :=
  let word := cs.map Char.toLower
  if word = "inf".toList || word = "infinity".toList then some (1.0 / 0.0)
  else if word = "nan".toList then some (0.0 / 0.0)
  else unsigned? cs

/-- The float that a text stands for. -/
def read? (text : String) : Option Float :=
  match text.toList with
  | '-' :: cs => (magnitude? cs).map (- ·)
  | '+' :: cs => magnitude? cs
  | cs => magnitude? cs

end Stopwatch.Decimal
