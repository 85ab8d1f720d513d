import Stopwatch.Tool.Basic

/-!
# Tools on the ends of texts

The tools that show the first or the last lines or bytes of a text.

- `Amount.read?`: how much is to be shown;
- `head`, `tail`: the tools.
-/

namespace Stopwatch.Tool

open Stopwatch.System (Stream)

/-! ### Amounts -/

/-- How much of a text is shown. -/
structure Amount where
  count : Nat
  /-- Whether bytes are counted, not lines. -/
  inBytes : Bool
  /-- The sign in front of the number. -/
  sign : Option Char
deriving DecidableEq, Repr, Inhabited

namespace Amount

/-- The factor that stands behind a number. -/
def factor? (suffix : Bytes) : Option Nat :=
  match String.ofList suffix with
  | "" => some 1
  | "b" => some 512
  | "k" => some 1024
  | "K" => some 1024
  | "KiB" => some 1024
  | "kB" => some 1000
  | "KB" => some 1000
  | "m" => some 1048576
  | "M" => some 1048576
  | "MiB" => some 1048576
  | "MB" => some 1000000
  | "G" => some 1073741824
  | "GB" => some 1000000000
  | _ => none

/-- Reads an amount. -/
def read? (inBytes : Bool) (text : Bytes) : Option Amount :=
  let text := text.dropWhile isSpace
  let sign := text.head?.filter fun c => c = '-' || c = '+'
  let text := if sign.isSome then text.tail else text
  let digits := text.takeWhile Char.isDigit
  match Bytes.number? digits, factor? (text.drop digits.length) with
  | some n, some factor => some ⟨n * factor, inBytes, sign⟩
  | _, _ => none

end Amount

/-- Writes an old kind of first argument, a number behind a sign, as an option. -/
def modernise (signs : Bytes) : List Bytes → List Bytes
  | (sign :: c :: cs) :: rest =>
    let digits := (c :: cs).takeWhile Char.isDigit
    let letters := (c :: cs).drop digits.length
    let value := if sign = '+' then '+' :: digits else digits
    if !signs.contains sign || !c.isDigit then (sign :: c :: cs) :: rest
    else if letters.isEmpty || letters = ['l'] then ['-', 'n'] :: value :: rest
    else if letters = ['c'] then ['-', 'c'] :: value :: rest
    else if letters = ['q'] then ['-', 'q'] :: ['-', 'n'] :: value :: rest
    else (sign :: c :: cs) :: rest
  | arguments => arguments

/-! ### Several inputs -/

/-- The options of the tools that show one end of a text. -/
def endOptions (flags : String) : Options :=
  ⟨flags, "cns", [("bytes", 'c'), ("lines", 'n'), ("quiet", 'q'), ("silent", 'q'), ("verbose", 'v'),
    ("follow", 'f'), ("sleep-interval", 's')]⟩

/-- What is said about a file whose end cannot be shown. -/
def endSayings : Sayings where
  unopened operand e :=
    Bytes.ofString "cannot open " ++ quote operand ++ Bytes.ofString " for reading: " ++ words e
  unread operand e := quotedly "error reading " operand e

/-- The line that stands above the text of a file. -/
def heading (isFirst : Bool) (operand : Bytes) : Bytes :=
  let name := if operand = ['-'] then Bytes.ofString "standard input" else operand
  (if isFirst then [] else ['\n']) ++ Bytes.ofString "==> " ++ name ++ Bytes.ofString " <==\n"

/-- A tool that shows one end of its inputs, perhaps under headings. -/
def oneEnd (flags : String) (signs : Bytes) (use : Call → Amount → Nat → Work (Option SystemError)) : Errand := do
  let arguments := modernise signs (← read).arguments
  match Call.read (endOptions flags) arguments with
  | .error text => misuse text 1
  | .ok call =>
    let option? := call.options.reverse.find? fun o => o.1 = 'n' || o.1 = 'c'
    let (letter, text) := option?.getD ('n', ['1', '0'])
    match Amount.read? (letter = 'c') text with
    | none =>
      blame (Bytes.ofString (if letter = 'c' then "invalid number of bytes: " else "invalid number of lines: ") ++
        quote text)
      return 1
    | some amount =>
      let isHeaded := call.has 'v' || (1 < call.operands.length && !call.has 'q')
      let mut isFirst := true
      let mut status := 0
      for operand in orStandard call.operands do
        match ← openOperand operand with
        | .error e =>
          blame (endSayings.unopened operand e)
          status := 1
        | .ok descriptor =>
          if isHeaded then put (heading isFirst operand)
          isFirst := false
          if let some e ← use call amount descriptor then
            blame (endSayings.unread operand e)
            status := 1
          closeOperand descriptor
      return status

/-! ### The start -/

/-- How much is read at once for the first lines. -/
def block : Nat := 8192

/-- The first lines of a text, how many are missing still, and the rest. -/
def splitLines : (count : Nat) → Bytes → Bytes × Nat × Bytes
  | 0, text => ([], 0, text)
  | count, [] => ([], count, [])
  | count + 1, c :: cs =>
    let (first, left, rest) := splitLines (if c = '\n' then count else count + 1) cs
    (c :: first, left, rest)
termination_by _ text => text.length

/-- Gives back what has been read of a file and is not used. -/
def giveBack (descriptor : Nat) (rest : Bytes) : Work Unit := do
  if !rest.isEmpty then
    if let some o ← ask (.describe descriptor) then
      if let .file _ := o.stream then ask (.seek descriptor (o.offset - rest.length))

/-- Shows the first lines of an input; `fuel` bounds the number of readings. -/
def firstLines (descriptor : Nat) : (fuel count : Nat) → Work (Option SystemError)
  | 0, _ => return none
  | _, 0 => return none
  | fuel + 1, count => do
    match ← ask (.read descriptor block false) with
    | .error e => return some e
    | .ok [] => return none
    | .ok text =>
      let (first, left, rest) := splitLines count text
      put first
      giveBack descriptor rest
      if left = 0 then return none else firstLines descriptor fuel left

/-- Shows the first bytes of an input; `fuel` bounds the number of readings. -/
def firstBytes (descriptor : Nat) : (fuel count : Nat) → Work (Option SystemError)
  | 0, _ => return none
  | _, 0 => return none
  | fuel + 1, count => do
    match ← ask (.read descriptor (min block count) false) with
    | .error e => return some e
    | .ok [] => return none
    | .ok text =>
      put text
      if ← isBlocked then return none else firstBytes descriptor fuel (count - text.length)

/-- Shows the start of its input. What it does not need of a file is left to others. -/
def head : Errand :=
  oneEnd "qvz" ['-'] fun _ amount descriptor => do
    if amount.sign = some '-' then
      let (text, e) ← takeAll descriptor
      let lines := Bytes.lines text
      put (if amount.inBytes then text.take (text.length - amount.count)
        else (lines.take (lines.length - amount.count)).flatten)
      return e
    else if amount.inBytes then firstBytes descriptor plentiful amount.count
    else firstLines descriptor plentiful amount.count

/-! ### The end -/

/-- Shows what is added to an input, without end; `fuel` bounds the number of looks. -/
def followInput (descriptor : Nat) : (fuel : Nat) → Work Unit
  | 0 => return
  | fuel + 1 => do
    ask (.rest Span.second)
    let ((), _) ← overPortions descriptor (fun () text => put text) ()
    flush
    followInput descriptor fuel

/-- Shows the end of its input. -/
def tail : Errand :=
  oneEnd "fFqvz" ['-', '+'] fun call amount descriptor => do
    let last (text : Bytes) : Bytes :=
      if amount.inBytes then text.drop (text.length - amount.count)
      else
        let lines := Bytes.lines text
        (lines.drop (lines.length - amount.count)).flatten
    let from' (text : Bytes) : Bytes :=
      if amount.inBytes then text.drop (amount.count - 1)
      else ((Bytes.lines text).drop (amount.count - 1)).flatten
    let e ← if amount.sign = some '+' then do
        let (text, e) ← takeAll descriptor
        put (from' text)
        pure e
      else do
        let (text, e) ← overPortions descriptor (fun kept text => return last (kept ++ text)) []
        put text
        pure e
    if call.has 'f' || call.has 'F' then
      flush
      if let some o ← ask (.describe descriptor) then
        if let .file _ := o.stream then followInput descriptor plentiful
    return e

end Stopwatch.Tool
