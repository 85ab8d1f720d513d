/-!
# Number literals

A JSON number is kept as written: sign, digits before the point, digits after it, exponent. Which
machine number it stands for is decided by the reader of a record, see `Stopwatch.Json.Number`.
-/

namespace Stopwatch.Json

/-- The exponent of a literal; `value` is its size. -/
structure Exponent where
  negative : Bool
  value : Nat
deriving DecidableEq, Repr

/-- A number as written. An empty `fraction` means that there is no point. -/
structure Literal where
  negative : Bool
  whole : List Char
  fraction : List Char
  exponent : Option Exponent
deriving DecidableEq, Repr

namespace Literal

/-- The text of an exponent; its sign is always written. -/
def exponentChars : Option Exponent → List Char
  | none => []
  | some e => 'e' :: (if e.negative then '-' else '+') :: Nat.toDigits 10 e.value

/-- The text of a literal. -/
def chars (n : Literal) : List Char :=
  (if n.negative then ['-'] else []) ++ n.whole ++
    (if n.fraction.isEmpty then [] else '.' :: n.fraction) ++ exponentChars n.exponent

/-- Reads an exponent up to the end: nothing, or `e` with an optional sign and at least one digit. -/
def exponent? : List Char → Option (Option Exponent)
  | [] => some none
  | c :: rest =>
    if c = 'e' || c = 'E' then
      let (negative, ds) := match rest with
        | '+' :: ds => (false, ds)
        | '-' :: ds => (true, ds)
        | ds => (false, ds)
      if ds.isEmpty || !ds.all Char.isDigit then none
      else some (some ⟨negative, Nat.ofDigitChars 10 ds 0⟩)
    else none

/-- Reads what follows the sign. The digits before the point have no leading zero. -/
def magnitude? (negative : Bool) (cs : List Char) : Option Literal :=
  let whole := cs.takeWhile Char.isDigit
  let rest := cs.dropWhile Char.isDigit
  if whole.isEmpty || (whole.head? = some '0' && whole.length ≠ 1) then none
  else
    match rest with
    | '.' :: more =>
      let fraction := more.takeWhile Char.isDigit
      if fraction.isEmpty then none
      else (exponent? (more.dropWhile Char.isDigit)).map (⟨negative, whole, fraction, ·⟩)
    | rest => (exponent? rest).map (⟨negative, whole, [], ·⟩)

/-- Reads a whole text as a number. -/
def ofChars? : List Char → Option Literal
  | '-' :: cs => magnitude? true cs
  | cs => magnitude? false cs

end Literal

end Stopwatch.Json
