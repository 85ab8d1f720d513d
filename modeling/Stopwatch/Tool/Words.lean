import Stopwatch.Shell.Format
import Stopwatch.Tool.Basic

/-!
# Tools on their arguments

The tools that need nothing but their arguments: those that print them, count or wait.
-/

namespace Stopwatch.Tool

open Shell

/-! ### Time -/

/-- A duration in nanoseconds: a decimal fraction, perhaps with a unit. -/
def duration? (cs : Bytes) : Option Nat :=
  let (digits, unit) := match cs.getLast? with
    | some 's' => (cs.dropLast, 1)
    | some 'm' => (cs.dropLast, 60)
    | some 'h' => (cs.dropLast, 3600)
    | some 'd' => (cs.dropLast, 86400)
    | _ => (cs, 1)
  let whole := digits.takeWhile Char.isDigit
  let rest := digits.drop whole.length
  let fraction := rest.drop 1
  if (whole.isEmpty && fraction.isEmpty) || !(rest.isEmpty || rest.head? = some '.') ||
      !fraction.all Char.isDigit then none
  else
    let places := (fraction ++ List.replicate 9 '0').take 9
    some ((Nat.ofDigitChars 10 whole 0 * Span.second + Nat.ofDigitChars 10 places 0) * unit)

/-- Whether a text stands for a time without end. -/
def isForever (a : Bytes) : Bool := ["inf", "infinity"].contains (String.ofList (a.map Char.toLower))

/-- A time without end. -/
def forever : Nat := 1000000000 * Span.second

/-- Waits as long as all its arguments say. -/
def sleep : Errand :=
  withCall ⟨"", "", []⟩ 1 fun call => do
    let wrong := call.operands.filter fun a => (duration? a).isNone && !isForever a
    match call.operands, wrong.getLast? with
    | [], _ => misuse (Bytes.ofString "missing operand") 1
    | _, some last =>
      let interval (a : Bytes) : Bytes := Bytes.ofString "invalid time interval " ++ quote a
      for a in wrong.dropLast do
        blame (interval a)
      misuse (interval last) 1
    | _, none =>
      ask (.rest (if call.operands.any isForever then forever
        else (call.operands.filterMap duration?).foldl (· + ·) 0))
      return 0

/-! ### Words -/

/-- Prints its arguments; escapes are replaced only on demand. -/
def echo : Errand := do
  let arguments := (← read).arguments
  let isOption (a : Bytes) : Bool := match a with
    | '-' :: c :: cs => (c :: cs).all fun c => c = 'n' || c = 'e' || c = 'E'
    | _ => false
  let options := (arguments.takeWhile isOption).flatMap (·.drop 1)
  let isEscaping := (options.filter (· ≠ 'n')).getLast? = some 'e'
  let text := [' '].intercalate (arguments.dropWhile isOption)
  let (out, stop) := if isEscaping then Format.argument (text.length + 1) text else (text, false)
  put (out ++ if stop || options.contains 'n' then [] else ['\n'])
  return 0

/-- Whether a format has a conversion. -/
def hasConversion : Bytes → Bool
  | '%' :: '%' :: rest => hasConversion rest
  | '%' :: _ => true
  | _ :: rest => hasConversion rest
  | [] => false

/-- Prints arguments under a format. -/
def printf : Errand := do
  let arguments := (← read).arguments
  match if arguments.head? = some ['-', '-'] then arguments.tail else arguments with
  | [] => misuse (Bytes.ofString "missing operand") 1
  | format :: rest =>
    let p := Format.printf format rest
    let mut left := p.out
    let mut done := 0
    for (n, c) in p.complaints do
      put (left.take (n - done))
      left := left.drop (n - done)
      done := n
      blame (quote c.argument ++ Bytes.ofString (match c.defect with
        | .noNumber => ": expected a numeric value"
        | .incomplete => ": value not completely converted"
        | .outOfRange => ": Numerical result out of range"))
    put left
    match p.mistake, rest with
    | some .unfinished, _ => blame (Bytes.ofString "%: invalid conversion specification")
    | some (.unknown source), _ => blame (source ++ Bytes.ofString ": invalid conversion specification")
    | none, [] => pure ()
    | none, first :: _ =>
      if !hasConversion format then
        blame (Bytes.ofString "warning: ignoring excess arguments, starting with " ++ quote first)
    return if p.complaints.isEmpty && p.mistake.isNone then 0 else 1

/-- Writes a text again and again; gives what went wrong. `fuel` bounds the number of times. -/
def repeatedly (text : Bytes) : (fuel : Nat) → Work (Option SystemError)
  | 0 => return none
  | fuel + 1 => do
    match ← (System.Action.write 1 text : System.Action _) with
    | some e => return some e
    | none => repeatedly text fuel

/-- Prints a line again and again. -/
def yes : Errand :=
  withOrderedCall ⟨"", "", []⟩ 1 fun call => do
    let line := (if call.operands.isEmpty then ['y'] else [' '].intercalate call.operands) ++ ['\n']
    match ← repeatedly (List.replicate (8192 / line.length + 1) line).flatten plentiful with
    | some e =>
      blame (Bytes.ofString "standard output: " ++ words e)
      return 1
    | none => return 0

/-- Prints the directory. -/
def pwd : Errand := do
  put (Bytes.ofString (System.Disk.pathOf (← ask .view).directory) ++ ['\n'])
  return 0

/-- Prints the environment. -/
def printenv : Errand := do
  let start ← read
  if start.arguments.isEmpty then
    put (start.environment.flatMap fun v => v.1 ++ '=' :: v.2 ++ ['\n'])
    return 0
  else
    let values := start.arguments.map fun name => start.environment.lookup name
    put ((values.filterMap id).flatMap (· ++ ['\n']))
    return if values.all Option.isSome then 0 else 1

/-- Prints a fixed line. -/
def line (text : String) : Errand := do
  put (Bytes.ofString text ++ ['\n'])
  return 0

/-! ### Numbers -/

/-- A decimal fraction: a number of units, of which so many digits stand behind the point. -/
structure Fraction where
  units : Int
  places : Nat
deriving DecidableEq, Repr, Inhabited

namespace Fraction

/-- The fraction that a text stands for. -/
def read? (text : Bytes) : Option Fraction :=
  let (isNegative, magnitude) : Bool × Bytes := match text with
    | '-' :: rest => (true, rest)
    | '+' :: rest => (false, rest)
    | rest => (false, rest)
  let whole := magnitude.takeWhile Char.isDigit
  let rest := magnitude.drop whole.length
  let places := rest.drop 1
  if (whole.isEmpty && places.isEmpty) || !(rest.isEmpty || rest.head? = some '.') ||
      !places.all Char.isDigit then none
  else
    let n : Int := Nat.ofDigitChars 10 (whole ++ places) 0
    some ⟨if isNegative then -n else n, places.length⟩

/-- The units of a fraction if so many digits stand behind the point. -/
def scaled (places : Nat) (f : Fraction) : Int := f.units * Int.pow 10 (places - f.places)

/-- A fraction in digits, with zeros in front up to a width. -/
def text (width : Nat) (f : Fraction) : Bytes :=
  let digits := Bytes.decimal f.units.natAbs
  let digits := List.replicate (f.places + 1 - digits.length) '0' ++ digits
  let whole := digits.take (digits.length - f.places)
  let shown := if f.places = 0 then whole else whole ++ '.' :: digits.drop whole.length
  let sign := if f.units < 0 then ['-'] else []
  sign ++ List.replicate (width - shown.length - sign.length) '0' ++ shown

end Fraction

/-- What a counting tool is asked for. -/
structure Counting where
  separator : Bytes
  isWide : Bool
  format : Option Bytes
  operands : List Bytes
deriving Inhabited

/-- Reads the arguments of a counting tool, whose numbers may look like options. -/
def countingOf : List Bytes → Counting
  | ['-', 's'] :: separator :: rest => { countingOf rest with separator }
  | ('-' :: 's' :: c :: cs) :: rest => { countingOf rest with separator := c :: cs }
  | ['-', 'f'] :: format :: rest => { countingOf rest with format := some format }
  | ('-' :: 'f' :: c :: cs) :: rest => { countingOf rest with format := some (c :: cs) }
  | ['-', 'w'] :: rest => { countingOf rest with isWide := true }
  | ['-', '-'] :: rest => ⟨['\n'], false, none, rest⟩
  | arguments => ⟨['\n'], false, none, arguments⟩

/-- Puts numbers from one on with separators in front; `count` is how many there are. -/
def putNumbers (separator : Bytes) (show' : Int → Bytes) (step : Int) : (count : Nat) → Int → Work Unit
  | 0, _ => return
  | count + 1, n => do
    put (separator ++ show' n)
    if !(← isBlocked) then putNumbers separator show' step count (n + step)

/-- Prints numbers from a first to a last one. -/
def seq : Errand := do
  let c := countingOf (← read).arguments
  match c.operands.find? fun a => (Fraction.read? a).isNone with
  | some ('-' :: letter :: _) =>
    if letter = '-' then misuse (Bytes.ofString "unrecognized option") 1
    else misuse (Bytes.ofString "invalid option -- " ++ quote [letter]) 1
  | some bad => misuse (Bytes.ofString "invalid floating point argument: " ++ quote bad) 1
  | none =>
    let one : Fraction := ⟨1, 0⟩
    let go (first step last : Fraction) : Errand := do
      let places := max first.places step.places
      let fine := max places last.places
      let (a, d, z) := (first.scaled fine, step.scaled fine, last.scaled fine)
      let count := ((z - a).fdiv d + 1).toNat
      let atPlaces (n : Int) : Fraction := ⟨n / Int.pow 10 (fine - places), places⟩
      let end' := a + d * (count - 1 : Int)
      let width := if c.isWide then
          max ((atPlaces a).text 0).length ((atPlaces end').text 0).length
        else 0
      let show' (n : Int) : Bytes := match c.format with
        | some format => (Format.printf format [(atPlaces n).text 0]).out
        | none => (atPlaces n).text width
      if 0 < count then
        put (show' a)
        putNumbers c.separator show' d (count - 1) (a + d)
        put ['\n']
      return 0
    match c.operands.filterMap Fraction.read? with
    | [] => misuse (Bytes.ofString "missing operand") 1
    | [last] => go one one last
    | [first, last] => go first one last
    | [first, step, last] =>
      if step.units = 0 then
        misuse (Bytes.ofString "invalid Zero increment value: " ++ quote ((c.operands[1]?).getD [])) 1
      else go first step last
    | _ => misuse (Bytes.ofString "extra operand " ++ quote ((c.operands[3]?).getD [])) 1

end Stopwatch.Tool
