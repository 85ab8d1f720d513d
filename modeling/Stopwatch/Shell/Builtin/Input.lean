import Stopwatch.Shell.Builtin.Basic
import Stopwatch.Shell.Field

/-!
# Reading lines

The command that reads a line and gives its words to variables. The last variable takes the rest of the line. A
character behind a backslash separates nothing.

- `Line.take`: what a text adds to a line;
- `wordsOf`: the words of a line for some number of variables.
-/

namespace Stopwatch.Shell.Builtin

open Pattern (Mark)
open Step (ask giveUp assign setStatus)

/-! ### Lines -/

/-- A line that is being read. -/
structure Line where
  /-- The characters so far, last one first; those behind a backslash count as quoted. -/
  marks : List Mark
  /-- Whether a backslash has come last. -/
  isEscaped : Bool
  isOver : Bool
deriving Repr, Inhabited

namespace Line

/-- Adds a character to a line. A backslash in front of a line feed joins two lines. -/
def add (isRaw : Bool) (line : Line) (c : Char) : Line :=
  if c = '\x00' then line
  else if line.isEscaped then
    { line with isEscaped := false, marks := if c = '\n' then line.marks else ⟨c, true⟩ :: line.marks }
  else if c = '\\' && !isRaw then { line with isEscaped := true }
  else if c = '\n' then { line with isOver := true }
  else { line with marks := ⟨c, false⟩ :: line.marks }

/-- Adds a text to a line. -/
def take (isRaw : Bool) (text : Bytes) (line : Line) : Line := text.foldl (add isRaw) line

end Line

/-! ### Words -/

/-- Whether a character of a line separates words. -/
def isGap (separators : Bytes) (m : Mark) : Bool := !m.quoted && separators.contains m.char

/-- Whether a character of a line separates words together with those around it. -/
def isBlankGap (separators : Bytes) (m : Mark) : Bool := isGap separators m && Atom.isBlank m.char

/-- What comes behind a separator: blanks belong to it, and to a blank one other separator. -/
def behindGap (separators : Bytes) (isBlank : Bool) : List Mark → List Mark
  | [] => []
  | m :: ms =>
    if !isGap separators m then m :: ms
    else if Atom.isBlank m.char then behindGap separators isBlank ms
    else if isBlank then behindGap separators false ms
    else m :: ms

/-- Where the rest of a line ends: in front of blanks, and in front of one separator if there is nothing else.
`gap` tells whether a separator has come, and if so whether it was a blank one; `cut` is the end so far. -/
def restLength (separators : Bytes) (gap : Option Bool) (cut : Option Nat) (position : Nat) : List Mark → Nat
  | [] => cut.getD position
  | m :: ms =>
    let (gap, cut) : Option Bool × Option Nat :=
      if m.quoted then (gap.map fun _ => false, cut)
      else match gap with
        | none => if isGap separators m then (some (Atom.isBlank m.char), some position) else (none, cut)
        | some isBlank =>
          if isBlankGap separators m then (gap, some (cut.getD position))
          else (some false, if isGap separators m && isBlank then cut else none)
    restLength separators gap cut (position + 1) ms

/-- The words of a line for some number of variables. -/
def wordsOf (separators : Bytes) : (count : Nat) → List Mark → List Bytes
  | 0, _ => []
  | count + 1, marks =>
    let marks := marks.dropWhile (isBlankGap separators)
    if count = 0 then [(marks.take (restLength separators none none 0 marks)).map Mark.char]
    else
      let word := marks.takeWhile fun m => !isGap separators m
      let rest := match marks.drop word.length with
        | gap :: rest => behindGap separators (Atom.isBlank gap.char) rest
        | [] => []
      word.map Mark.char :: wordsOf separators count rest

/-! ### The command -/

/-- Reads a line; `fuel` bounds the number of readings. -/
def readLine (isRaw : Bool) : (fuel : Nat) → Line → Step Line
  | 0, line => return line
  | fuel + 1, line => do
    match ← ask (.read 0 System.Action.portion true) with
    | .ok (c :: cs) =>
      let line := line.take isRaw (c :: cs)
      if line.isOver then return line else readLine isRaw fuel line
    | _ => return line

/-- Reads a line and gives its words to variables. -/
def read (arguments : List Bytes) : Step Unit := do
  let (found, names) ← options "p:r" arguments
  if names.isEmpty then giveUp (Bytes.ofString "arg count")
  let line ← readLine (has 'r' found) System.Action.plentiful ⟨[], false, false⟩
  let words := wordsOf (← get).separators names.length line.marks.reverse
  for (name, i) in names.zipIdx do
    assign name ((words[i]?).getD [])
  setStatus (if line.isOver then 0 else 1)

end Stopwatch.Shell.Builtin
