import Stopwatch.Calendar
import Stopwatch.Tool.Ends

/-!
# Copying blocks

The tool that copies blocks of bytes from an input to an output.

- `Copying.of`: what the operands ask for;
- `dd`: the tool.
-/

namespace Stopwatch.Tool

open Stopwatch.System (Access)

/-- What is copied, and how. -/
structure Copying where
  source : Option Bytes
  target : Option Bytes
  /-- How much is read at once. -/
  inputSize : Nat
  /-- How many blocks are read at most. -/
  count : Option Nat
  /-- How many blocks are left out at the start of the input. -/
  skip : Nat
  /-- How many bytes are left out at the start of the output. -/
  seek : Nat
  /-- Whether what is in the output stays. -/
  keeps : Bool
  /-- How much is told about it. -/
  report : Bytes
deriving Inhabited

namespace Copying

/-- The value of the last operand with a name. -/
def value? (operands : List (Bytes × Bytes)) (name : String) : Option Bytes := operands.reverse.lookup name.toList

/-- A size with its factor. -/
def size? (text : Bytes) : Option Nat :=
  match text.getLast? with
  | some 'c' => Bytes.number? text.dropLast
  | some 'w' => (Bytes.number? text.dropLast).map (2 * ·)
  | _ => (Amount.read? true text).bind fun a => if a.sign.isNone then some a.count else none

/-- The names of all operands. -/
def names : List String :=
  ["bs", "cbs", "conv", "count", "ibs", "if", "iflag", "obs", "of", "oflag", "seek", "skip", "status"]

/-- What some operands ask for, or the complaint about them, and whether it is one about their form. -/
def of (operands : List Bytes) : Except (Bytes × Bool) Copying := do
  let pairs ← operands.mapM fun operand =>
    let name := operand.takeWhile (· ≠ '=')
    if operand.contains '=' && names.contains (String.ofList name) then
      .ok (name, operand.drop (name.length + 1))
    else .error (Bytes.ofString "unrecognized operand " ++ quote operand, true)
  let number (name : String) : Except (Bytes × Bool) (Option Nat) :=
    match value? pairs name with
    | none => .ok none
    | some text => (size? text).elim (.error (Bytes.ofString "invalid number: " ++ quote text, false)) (.ok ∘ some)
  let both ← number "bs"
  let inputSize := both.getD ((← number "ibs").getD 512)
  let outputSize := both.getD ((← number "obs").getD 512)
  if inputSize = 0 || outputSize = 0 then throw (Bytes.ofString "invalid number: '0'", false)
  return {
    source := value? pairs "if"
    target := value? pairs "of"
    inputSize
    count := ← number "count"
    skip := (← number "skip").getD 0
    seek := ((← number "seek").getD 0) * outputSize
    keeps := (Bytes.split ',' ((value? pairs "conv").getD [])).contains "notrunc".toList
    report := (value? pairs "status").getD [] }

end Copying

/-- How many blocks have been read: whole ones, and others, and bytes in all. -/
structure Blocks where
  whole : Nat
  partly : Nat
  bytes : Nat
deriving Inhabited

/-- Copies blocks from the input to the output; `fuel` bounds their number. -/
def copyBlocks (size : Nat) : (fuel : Nat) → Blocks → Work (Blocks × Option SystemError)
  | 0, n => return (n, none)
  | fuel + 1, n => do
    match ← ask (.read 0 size false) with
    | .error e => return (n, some e)
    | .ok [] => return (n, none)
    | .ok text =>
      let n : Blocks := if text.length = size then { n with whole := n.whole + 1 } else { n with partly := n.partly + 1 }
      match ← (System.Action.write 1 text : System.Action _) with
      | some e => return (n, some e)
      | none => copyBlocks size fuel { n with bytes := n.bytes + text.length }

/-- Makes a descriptor lead to a file; tells whether that was possible. -/
def redirect (descriptor : Nat) (path : Bytes) (access : Access) : Work Bool := do
  match ← ask (.openFile path.toText access) with
  | .error e =>
    blame (quotedly "failed to open " path e)
    return false
  | .ok opened =>
    if opened ≠ descriptor then
      let _ ← ask (.place opened descriptor)
      ask (.close opened)
    return true

/-- Copies blocks of bytes. -/
def dd : Errand := do
  match Copying.of (← read).arguments with
  | .error (text, isForm) =>
    if isForm then misuse text 1
    else
      blame text
      return 1
  | .ok c =>
    let start ← ask .time
    if let some path := c.source then
      if !(← redirect 0 path .input) then return 1
    if let some path := c.target then
      let access : Access := { Access.output with empties := !c.keeps && c.seek = 0 }
      if !(← redirect 1 path access) then return 1
      ask (.seek 1 c.seek)
    for _ in List.range c.skip do
      let _ ← ask (.read 0 c.inputSize false)
    let (n, e) ← copyBlocks c.inputSize (c.count.getD plentiful) ⟨0, 0, 0⟩
    if let some e := e then
      blame (quotedly "error reading " (c.source.getD "standard input".toList) e)
    if c.report ≠ "none".toList then
      let time := (← ask .time) - start
      let records := Bytes.decimal n.whole ++ '+' :: Bytes.decimal n.partly ++ Bytes.ofString " records "
      complain (records ++ Bytes.ofString "in")
      complain (records ++ Bytes.ofString "out")
      let seconds := Bytes.ofString ("0." ++ Moment.padded 9 (time % Span.second))
      if c.report ≠ "noxfer".toList then complain (Bytes.decimal n.bytes ++ Bytes.ofString (if n.bytes = 1 then " byte" else " bytes") ++
        Bytes.ofString " copied, " ++ seconds ++ Bytes.ofString " s, " ++
        Bytes.decimal (n.bytes * Span.second / max 1 time / 1000) ++ Bytes.ofString " kB/s")
    return if e.isSome then 1 else 0

end Stopwatch.Tool
