import Stopwatch.Shell.Format
import Stopwatch.Tool.Basic

/-!
# Tools on whole texts

The tools that show all of their input, as it is, with marks and numbers, or from the last line to the first.
-/

namespace Stopwatch.Tool

open Stopwatch.System (Stream)

/-! ### Marks -/

/-- A byte that cannot be seen, in a form that can. -/
def visible (c : Char) : Bytes :=
  let low (n : Nat) : Bytes :=
    if n < 32 then ['^', Char.ofNat (n + 64)] else if n = 127 then ['^', '?'] else [Char.ofNat n]
  if c = '\n' || c = '\t' then [c]
  else if c.toNat < 128 then low c.toNat
  else ['M', '-'] ++ low (c.toNat - 128)

/-- What is shown of a line. -/
structure Marking where
  /-- Whether the ends of lines are marked. -/
  ends : Bool
  tabs : Bool
  /-- Whether bytes that cannot be seen are made visible. -/
  all : Bool

/-- The marks of some options. -/
def Marking.of (call : Call) : Marking :=
  let has (letters : String) : Bool := letters.toList.any call.has
  ⟨has "AeE", has "AtT", has "Aetv"⟩

/-- A line with its marks. -/
def Marking.apply (m : Marking) (line : Bytes) : Bytes :=
  let body := Bytes.bare line
  let isEnded := body.length < line.length
  let (body, feed) : Bytes × Bytes :=
    if m.ends && !m.all && isEnded && body.getLast? = some '\r' then (body.dropLast, ['^', 'M']) else (body, [])
  let body := if m.all then body.flatMap visible else body
  let body := if m.tabs then body.flatMap fun c => if c = '\t' then ['^', 'I'] else [c] else body
  body ++ feed ++ if isEnded then (if m.ends then ['$', '\n'] else ['\n']) else []

/-! ### Copying -/

/-- What is known of the lines so far. -/
structure Progress where
  /-- The number of the next line. -/
  number : Nat
  /-- Whether the last line has come to its end. -/
  isFresh : Bool
  /-- Whether the last line was empty. -/
  isBehindEmpty : Bool
deriving Inhabited

/-- Shows a line, perhaps with its number. Of several empty lines only the first may be shown. -/
def showLine (call : Call) (marking : Marking) (p : Progress) (line : Bytes) : Work Progress := do
  let isEmpty := line = ['\n'] && p.isFresh
  if isEmpty && p.isBehindEmpty && call.has 's' then return p
  let isNumbered := p.isFresh && (if call.has 'b' then !isEmpty else call.has 'n')
  put ((if isNumbered then column 6 p.number ++ ['\t'] else []) ++ marking.apply line)
  return ⟨if isNumbered then p.number + 1 else p.number, line.getLast? = some '\n', isEmpty⟩

/-- Whether a descriptor leads to the file to which the output goes, and there is more in it. -/
def isOutput (descriptor : Nat) : Work Bool := do
  match ← ask (.describe 1), ← ask (.describe descriptor) with
  | some target, some source =>
    match target.stream, source.stream with
    | .file a, .file b =>
      let v ← ask .view
      return a = b && source.offset < (v.disk.file b).content.size
    | _, _ => return false
  | _, _ => return false

/-- Copies its input. Lines can be marked and numbered. -/
def cat : Errand :=
  withCall ⟨"AbeEnstTuv", "", [("show-all", 'A'), ("number", 'n'), ("number-nonblank", 'b'), ("squeeze-blank", 's'),
      ("show-ends", 'E'), ("show-tabs", 'T'), ("show-nonprinting", 'v')]⟩ 1 fun call => do
    let isPlain := !"AbeEnstTv".toList.any call.has
    let mut p : Progress := ⟨1, true, false⟩
    let mut status := 0
    for operand in orStandard call.operands do
      match ← openOperand operand with
      | .error e =>
        blame (plainly operand e)
        status := 1
      | .ok descriptor =>
        if ← isOutput descriptor then
          blame (named operand ++ Bytes.ofString ": input file is output file")
          status := 1
        else
          let (next, e) ← if isPlain then do
              let ((), e) ← overPortions descriptor (fun () text => do
                put text
                flush) ()
              pure (p, e)
            else overLines descriptor (showLine call (Marking.of call)) p
          p := next
          if let some e := e then
            blame (plainly operand e)
            status := 1
        closeOperand descriptor
        if ← isBlocked then return status
    return status

/-- Shows lines from the last to the first. -/
def tac : Errand :=
  withCall ⟨"", "", []⟩ 1 fun call =>
    overInputs
      { unopened := fun operand e =>
          Bytes.ofString "failed to open " ++ quote operand ++ Bytes.ofString " for reading: " ++ words e
        unread := fun operand _ => named operand ++ Bytes.ofString ": read error: Invalid argument" }
      (fun _ descriptor => do
        let (text, e) ← takeAll descriptor
        put (Bytes.lines text).reverse.flatten
        return e) (orStandard call.operands)

end Stopwatch.Tool
