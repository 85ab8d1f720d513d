import Stopwatch.Shell.Format
import Stopwatch.Shell.Step

/-!
# What the commands of a shell share

Printing, options, and the numbers that arguments stand for.

- `print`: writes to the standard output;
- `options`: the options in front of the other arguments;
- `number`: the number that an argument stands for.
-/

namespace Stopwatch.Shell.Builtin

open Step (giveUp setStatus)
open Stopwatch.System (Action)

/-- Writes to the standard output. What is lost is told at the end of the command. -/
def print (text : Bytes) : Step Unit := do
  if !text.isEmpty then
    if (← (Action.write 1 text : Action _)).isSome then modify fun s => { s with hasLost := true }

/-- Writes to the standard output; the command has succeeded. -/
def tell (text : Bytes) : Step Unit := do
  print text
  setStatus 0

/-! ### Options -/

/-- Whether an option is known, and whether it takes a value, which a colon behind it says. -/
def kindOf? (known : Bytes) (letter : Char) : Option Bool :=
  if letter = ':' then none
  else match known.dropWhile (· ≠ letter) with
    | [] => none
    | _ :: rest => some (rest.head? = some ':')

/-- The options of an argument, and what is left of the arguments behind it. -/
def cluster (known : Bytes) (rest : List Bytes) : Bytes → Step (List (Char × Bytes) × List Bytes)
  | [] => return ([], rest)
  | letter :: letters => do
    match kindOf? known letter with
    | none => giveUp (Bytes.ofString "Illegal option -" ++ [letter])
    | some false =>
      let (found, rest) ← cluster known rest letters
      return ((letter, []) :: found, rest)
    | some true =>
      if !letters.isEmpty then return ([(letter, letters)], rest)
      match rest with
      | value :: rest => return ([(letter, value)], rest)
      | [] => giveUp (Bytes.ofString "No arg for -" ++ letter :: Bytes.ofString " option")

/-- The options in front of the other arguments; `fuel` bounds the number of arguments. -/
def optionsFrom (known : Bytes) : (fuel : Nat) → List Bytes → Step (List (Char × Bytes) × List Bytes)
  | 0, arguments => return ([], arguments)
  | fuel + 1, arguments => do
    match arguments with
    | ['-', '-'] :: rest => return ([], rest)
    | ('-' :: letter :: letters) :: rest =>
      let (first, rest) ← cluster known rest (letter :: letters)
      let (found, rest) ← optionsFrom known fuel rest
      return (first ++ found, rest)
    | _ => return ([], arguments)

/-- The options in front of the other arguments, and these. -/
def options (known : String) (arguments : List Bytes) : Step (List (Char × Bytes) × List Bytes) :=
  optionsFrom known.toList (arguments.length + 1) arguments

/-- The arguments of a command that knows no options. -/
def operands (arguments : List Bytes) : Step (List Bytes) := do
  return (← options "" arguments).2

/-- Whether an option is among some. -/
def has (letter : Char) (found : List (Char × Bytes)) : Bool := found.any (·.1 = letter)

/-! ### Numbers -/

/-- The greatest number that a command of the shell takes. -/
def greatest : Nat := 0x7fffffff

/-- The number that a text stands for, perhaps with blanks around it and a plus sign. -/
def number? (text : Bytes) : Option Nat :=
  let body := (Numeral.dropBlanks (Numeral.dropBlanks text).reverse).reverse
  match Numeral.integer? body with
  | some (.ofNat n) => if n ≤ greatest then some n else none
  | _ => none

/-- The complaint about a text that stands for no number. -/
def illegal (text : Bytes) : Bytes := Bytes.ofString "Illegal number: " ++ text

/-- The number that a text stands for; without one the command fails. -/
def number (text : Bytes) : Step Nat :=
  match number? text with
  | some n => return n
  | none => giveUp (illegal text)

/-- How many loops a command leaves, at most those that there are. -/
def loopCount (arguments : List Bytes) : Step Nat := do
  match arguments with
  | [] => return min 1 (← get).loops
  | text :: _ =>
    let n ← number text
    if n = 0 then giveUp (illegal text)
    return min n (← get).loops

/-- The name and the value in an argument that assigns. -/
def splitAssignment (argument : Bytes) : Bytes × Option Bytes :=
  let name := argument.takeWhile (· ≠ '=')
  (name, (argument.drop name.length).tail?)

end Stopwatch.Shell.Builtin
