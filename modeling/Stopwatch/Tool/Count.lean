import Stopwatch.Tool.Basic

/-!
# Counting

The tool that counts the lines, words and bytes of texts.

- `Counts.add`: what a further byte changes;
- `columnWidth`: the width of the columns.
-/

namespace Stopwatch.Tool

open Stopwatch.System (Stream)

/-- What is counted of a text. -/
structure Counts where
  lines : Nat
  words : Nat
  bytes : Nat
  /-- The width of the widest line so far. -/
  widest : Nat
  /-- Whether the text ends inside of a word. -/
  isInWord : Bool
  /-- The width of the line in which the text ends. -/
  place : Nat
deriving DecidableEq, Repr, Inhabited

namespace Counts

def zero : Counts := ⟨0, 0, 0, 0, false, 0⟩

/-- The width of a line behind a further byte; a new line has none. -/
def placeAfter (place : Nat) (c : Char) : Nat :=
  if c = '\n' || c = '\r' || c = '\x0c' then 0
  else if c = '\t' then place + (8 - place % 8)
  else if ' ' ≤ c && c ≤ '~' then place + 1
  else place

/-- Counts a further byte. -/
def add (n : Counts) (c : Char) : Counts :=
  let place := placeAfter n.place c
  let isInWord := !isSpace c
  { lines := if c = '\n' then n.lines + 1 else n.lines
    words := if isInWord && !n.isInWord then n.words + 1 else n.words
    bytes := n.bytes + 1
    widest := max n.widest place
    isInWord
    place }

/-- The count that a letter asks for. -/
def ofLetter (n : Counts) : Char → Nat
  | 'l' => n.lines
  | 'w' => n.words
  | 'L' => n.widest
  | _ => n.bytes

/-- The counts of several texts together. -/
def plus (a b : Counts) : Counts :=
  { zero with
    lines := a.lines + b.lines
    words := a.words + b.words
    bytes := a.bytes + b.bytes
    widest := max a.widest b.widest }

end Counts

/-- The size of what an operand names, if it is a file; nothing at all if it names nothing. -/
def sizeOf? (operand : Bytes) : Work (Option (Option Nat)) := do
  let v ← ask .view
  if operand = ['-'] then
    match ← ask (.describe 0) with
    | some { stream := .file serial, .. } => return some (some (v.disk.file serial).content.size)
    | some _ => return some none
    | none => return none
  else match v.find? operand.toText with
    | some (_, node) => return some ((v.disk.fileOf? node).map fun file => file.content.size)
    | none => return none

/-- The width of the columns for some operands. Where all of them are files it fits their sizes. -/
def columnWidth (columns : Nat) (operands : List Bytes) : Work Nat := do
  if operands.length = 1 && columns = 1 then return 1
  else
    let sizes := (← operands.mapM sizeOf?).filterMap id
    let width := (Bytes.decimal ((sizes.filterMap id).foldl (· + ·) 0)).length
    return if sizes.any Option.isNone then max width 7 else width

/-- Counts lines, words and bytes. -/
def wc : Errand :=
  withCall ⟨"lwmcL", "", [("lines", 'l'), ("words", 'w'), ("chars", 'm'), ("bytes", 'c'),
      ("max-line-length", 'L')]⟩ 1 fun call => do
    let asked := "lwmcL".toList.filter call.has
    let wanted := if asked.isEmpty then ['l', 'w', 'c'] else asked
    let width ← columnWidth wanted.length (orStandard call.operands)
    let row (n : Counts) (name : Bytes) : Work Unit :=
      put ([' '].intercalate (wanted.map fun letter => column width (n.ofLetter letter)) ++
        (if name.isEmpty then [] else ' ' :: name) ++ ['\n'])
    let mut status := 0
    let mut total := Counts.zero
    for operand in orStandard call.operands do
      match ← openOperand operand with
      | .error e =>
        blame (plainly operand e)
        status := 1
      | .ok descriptor =>
        let (n, e) ← overPortions descriptor (fun n text => return text.foldl Counts.add n) Counts.zero
        if let some e := e then
          blame (plainly operand e)
          status := 1
        closeOperand descriptor
        row n (if call.operands.isEmpty then [] else operand)
        total := total.plus n
    if 1 < call.operands.length then row total (Bytes.ofString "total")
    return status

end Stopwatch.Tool
