import Stopwatch.Decimal.Reading
import Stopwatch.Bytes

/-!
# Numerals

The numbers that texts stand for in scripts: decimal, octal and hexadecimal integers with a sign, decimal
fractions, and the number of a character after a quote. A text that is not all of a number, or one that is
too large, still has a value, and something is wrong with it.

- `quantity`: the integer that an argument stands for;
- `fraction`: the float that an argument stands for.
-/

namespace Stopwatch.Shell.Numeral

/-- The integer that a text is, after an optional sign. -/
def integer? (cs : Bytes) : Option Int :=
  let (negative, ds) := match cs with
    | '-' :: ds => (true, ds)
    | '+' :: ds => (false, ds)
    | ds => (false, ds)
  if ds.isEmpty || !ds.all Char.isDigit then none
  else
    let n := Nat.ofDigitChars 10 ds 0
    some (if negative then -(n : Int) else n)

/-- What is wrong with an argument of a conversion. -/
inductive Defect where
  /-- It is no number. -/
  | noNumber
  /-- Only its start is a number. -/
  | incomplete
  /-- The number is too large. -/
  | outOfRange
deriving DecidableEq, Repr, Inhabited

structure Complaint where
  argument : Bytes
  defect : Defect
deriving Repr, Inhabited

/-- The value of a digit in some base, if it is one. -/
def digit? (base : Nat) (c : Char) : Option Nat :=
  let value := if c.isDigit then c.toNat - '0'.toNat
    else if 'a' ≤ c.toLower && c.toLower ≤ 'z' then c.toLower.toNat - 'a'.toNat + 10 else base
  if value < base then some value else none

/-- The number that the digits at the start of a text make, and what comes after them. -/
def digits (base : Nat) (cs : Bytes) : Nat × Bytes :=
  let ds := cs.takeWhile fun c => (digit? base c).isSome
  ((ds.filterMap (digit? base)).foldl (fun n d => n * base + d) 0, cs.drop ds.length)

/-- The numeral at the start of a text, if there is one, and what comes after it: hexadecimal after `0x`,
octal after a zero, else decimal. -/
def numeral? (cs : Bytes) : Option (Nat × Bytes) :=
  match cs with
  | '0' :: x :: c :: rest =>
    if (x = 'x' || x = 'X') && (digit? 16 c).isSome then some (digits 16 (c :: rest))
    else some (digits 8 (x :: c :: rest))
  | '0' :: rest => some (digits 8 rest)
  | c :: rest => if c.isDigit then some (digits 10 (c :: rest)) else none
  | [] => none

/-- A sign at the start of a text: whether it is a minus, and what comes after it. -/
def sign (cs : Bytes) : Bool × Bytes :=
  match cs with
  | '-' :: rest => (true, rest)
  | '+' :: rest => (false, rest)
  | rest => (false, rest)

/-- A text without the blanks in front of it. -/
def dropBlanks (cs : Bytes) : Bytes := cs.dropWhile fun c => c = ' ' || ('\t' ≤ c && c ≤ '\r')

/-- The number of the character after a quote, if a text starts with one. -/
def quoted? : Bytes → Option Nat
  | '"' :: rest => some (rest.head?.elim 0 Char.toNat)
  | '\'' :: rest => some (rest.head?.elim 0 Char.toNat)
  | _ => none

/-- How many values a word of 64 bits has. -/
def wordCount : Nat := 0x10000000000000000

/-- The number that an argument of a conversion stands for, and the complaint about it. -/
def quantity (isSigned : Bool) (text : Bytes) : Int × List Complaint :=
  match quoted? text with
  | some n => (n, [])
  | none =>
    if text.isEmpty then (0, [])
    else
      let (negative, rest) := sign (dropBlanks text)
      match numeral? rest with
      | none => (0, [⟨text, .noNumber⟩])
      | some (n, rest) =>
        let most : Nat :=
          if !isSigned then wordCount - 1 else if negative then wordCount / 2 else wordCount / 2 - 1
        let kept := min n most
        let complaints := if !rest.isEmpty then [⟨text, .incomplete⟩]
          else if most < n then [⟨text, .outOfRange⟩] else []
        (if negative && (isSigned || n ≤ most) then -(kept : Int) else kept, complaints)

/-- The decimal fraction at the start of a text: sign, digits, places and exponent. -/
def fractionLength (cs : Bytes) : Nat :=
  let (_, rest) := sign cs
  let whole := rest.takeWhile Char.isDigit
  let rest := rest.drop whole.length
  let (places, rest) := match rest with
    | '.' :: tail =>
      let places := tail.takeWhile Char.isDigit
      (places, tail.drop places.length)
    | rest => ([], rest)
  if whole.isEmpty && places.isEmpty then 0
  else
    let exponent := match rest with
      | e :: tail =>
        if e = 'e' || e = 'E' then
          let (_, tail) := sign tail
          if (tail.takeWhile Char.isDigit).isEmpty then rest else tail.dropWhile Char.isDigit
        else rest
      | [] => []
    cs.length - exponent.length

/-- The float that an argument of a conversion stands for, and the complaint about it. -/
def fraction (text : Bytes) : Float × List Complaint :=
  match quoted? text with
  | some n => (n.toFloat, [])
  | none =>
    if text.isEmpty then (0, [])
    else
      let body := dropBlanks text
      let (negative, magnitude) := sign body
      let signed (x : Float) : Float := if negative then -x else x
      match String.ofList (magnitude.map Char.toLower) with
      | "inf" => (signed (1.0 / 0.0), [])
      | "infinity" => (signed (1.0 / 0.0), [])
      | "nan" => (0.0 / 0.0, [])
      | _ =>
        let isHexadecimal := match magnitude with
          | '0' :: x :: c :: _ => (x = 'x' || x = 'X') && (digit? 16 c).isSome
          | _ => false
        let (value, rest) :=
          if isHexadecimal then
            let (n, rest) := digits 16 (magnitude.drop 2)
            (some (signed n.toFloat), rest)
          else
            let length := fractionLength body
            (if length = 0 then none else Decimal.read? (String.ofList (body.take length)), body.drop length)
        match value with
        | none => (0, [⟨text, .noNumber⟩])
        | some x => (x, if rest.isEmpty then [] else [⟨text, .incomplete⟩])

end Stopwatch.Shell.Numeral
