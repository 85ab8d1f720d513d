import Stopwatch.Builtin.Catalogue
import Stopwatch.Decimal.Reading

/-!
# Values on a command line

How the text of a value is read, and why a text that makes no sense is refused.

- `Refusal`: the reasons;
- `Value.integer`, `number`, `path`, `oneOf`: the kinds of values.
-/

namespace Stopwatch.CommandLine

/-- Why a text is refused as a value. -/
inductive Refusal where
  /-- There is no text, and nothing is not a value. -/
  | empty
  /-- It is none of the texts to choose from. -/
  | noChoice
  | because (reason : String)
deriving DecidableEq, Repr, Inhabited

namespace Value

/-- Reads decimal digits behind those that make up `n`. The first digit that takes the number beyond
`most` ends the reading, as does the first character that is no digit. -/
def digits (most : Nat) (beyond : String) (n : Nat) : List Char → Except Refusal Nat
  | [] => .ok n
  | c :: cs =>
    if !c.isDigit then .error (.because "invalid digit found in string")
    else
      let next := n * 10 + (c.toNat - '0'.toNat)
      if most < next then .error (.because beyond) else digits most beyond next cs

/-- Reads decimal digits, of which there has to be one. -/
def someDigits (most : Nat) (beyond : String) (ds : List Char) : Except Refusal Nat :=
  if ds.isEmpty then .error (.because "invalid digit found in string") else digits most beyond 0 ds

/-- What is said of a number above all bounds. -/
def tooLarge : String := "number too large to fit in target type"

/-- What is said of a number below all bounds. -/
def tooSmall : String := "number too small to fit in target type"

/-- What is said of no text where a number has to be. -/
def noNumber (kind : String) : Refusal := .because ("cannot parse " ++ kind ++ " from empty string")

/-- The largest word. -/
def mostWord : Nat := 18446744073709551615

/-- Reads a word of 64 bits, perhaps with a plus sign. -/
def word (text : String) : Except Refusal Nat :=
  match text.toList with
  | [] => .error (noNumber "integer")
  | '+' :: ds => someDigits mostWord tooLarge ds
  | ds => digits mostWord tooLarge 0 ds

/-- Reads a signed word of 64 bits. -/
def signedWord (text : String) : Except Refusal Int :=
  match text.toList with
  | [] => .error (noNumber "integer")
  | '+' :: ds => (someDigits (mostWord / 2) tooLarge ds).map Int.ofNat
  | '-' :: ds => (someDigits (mostWord / 2 + 1) tooSmall ds).map fun n => -Int.ofNat n
  | ds => (digits (mostWord / 2) tooLarge 0 ds).map Int.ofNat

/-- The largest count. -/
def mostCount : Nat := 4294967295

/-- Reads a count of 32 bits. It is read as a signed word first. -/
def count (text : String) : Except Refusal Nat := do
  let n ← signedWord text
  if 0 ≤ n && n ≤ Int.ofNat mostCount then return n.toNat
  else .error (.because (toString n ++ " is not in 0..=" ++ toString mostCount))

/-- Reads a number with a fraction. -/
def number (text : String) : Except Refusal Float :=
  if text = "" then .error (noNumber "float")
  else match Decimal.read? text with
    | some x => .ok x
    | none => .error (.because "invalid float literal")

/-- Reads a path. -/
def path (text : String) : Except Refusal String := if text = "" then .error .empty else .ok text

/-- Reads any text. -/
def text (text : String) : Except Refusal String := .ok text

/-- Reads one of some names. -/
def oneOf {α : Type} (name : α → String) (all : List α) (text : String) : Except Refusal α :=
  match all.find? fun a => name a = text with
  | some a => .ok a
  | none => .error (if text = "" then .empty else .noChoice)

end Value

end Stopwatch.CommandLine
