import Stopwatch.Shell.Condition
import Stopwatch.Tool.Basic

/-!
# Calculating and comparing

The tools that compute a value from their arguments, or tell by their status whether something holds.

- `Formula.whole`: the value of a formula;
- `calculate`, `test`: the tools.
-/

namespace Stopwatch.Tool

open Shell

namespace Formula

/-- Where the reading of a formula stands. -/
structure Cursor where
  /-- The last word that was read. -/
  last : Bytes
  rest : List Bytes
deriving Repr, Inhabited

/-- A value and where the reading stands behind it, or what is wrong. -/
abbrev Outcome := Except Bytes (Bytes × Cursor)

/-- The whole number that a text is. -/
def integer? : Bytes → Option Int
  | '-' :: digits => (Bytes.number? digits).map fun n => -(n : Int)
  | digits => (Bytes.number? digits).map fun n => (n : Int)

/-- A whole number as a text. -/
def text (n : Int) : Bytes := if n < 0 then '-' :: Bytes.decimal n.natAbs else Bytes.decimal n.natAbs

/-- Whether a value stands for nothing: it is empty, or zero. -/
def isNull (value : Bytes) : Bool := value.isEmpty || integer? value = some 0

def truth (holds : Bool) : Bytes := if holds then ['1'] else ['0']

/-- Compares two values: numbers by their size, texts in the order of their bytes. -/
def compare (operator a b : Bytes) : Bytes :=
  let (isLess, isEqual) := match integer? a, integer? b with
    | some m, some n => (decide (m < n), decide (m = n))
    | _, _ => (!Bytes.inOrder b a, decide (a = b))
  truth (match String.ofList operator with
    | "<" => isLess
    | "<=" => isLess || isEqual
    | ">" => !isLess && !isEqual
    | ">=" => !isLess
    | "!=" => !isEqual
    | _ => isEqual)

/-- Calculates with two values. -/
def reckon (operator a b : Bytes) : Except Bytes Bytes :=
  match integer? a, integer? b with
  | some m, some n =>
    match operator with
    | ['+'] => .ok (text (m + n))
    | ['-'] => .ok (text (m - n))
    | ['*'] => .ok (text (m * n))
    | _ =>
      if n = 0 then .error (Bytes.ofString "division by zero")
      else .ok (text (if operator = ['/'] then m.tdiv n else m.tmod n))
  | _, _ => .error (Bytes.ofString "non-integer argument")

/-- The operators of each strength, weakest first. -/
def operators : List (List String) :=
  [["|"], ["&"], ["<", "<=", "=", "==", "!=", ">=", ">"], ["+", "-"], ["*", "/", "%"]]

/-- Joins two values. Where nothing is needed the result does not matter. -/
def join (isNeeded : Bool) (operator a b : Bytes) : Except Bytes Bytes :=
  match String.ofList operator with
  | "|" => .ok (if !isNull a then a else if isNull b then ['0'] else b)
  | "&" => .ok (if isNull a || isNull b then ['0'] else a)
  | "+" | "-" | "*" | "/" | "%" => if isNeeded then reckon operator a b else .ok a
  | _ => .ok (compare operator a b)

/-- Whether the value behind an operator is needed. -/
def needsSecond (operator a : Bytes) : Bool :=
  match operator with
  | ['|'] => isNull a
  | ['&'] => !isNull a
  | _ => true

/-- Says what is wrong with the form of a formula. -/
def misplaced {α : Type} (what : String) (word : Bytes) : Except Bytes α :=
  .error (Bytes.ofString ("syntax error: " ++ what ++ " ") ++ quote word)

/-- The value of a word or of what stands between brackets. -/
def primary (whole : Bool → Cursor → Outcome) (isNeeded : Bool) (c : Cursor) : Outcome := do
  match c.rest with
  | [] => misplaced "missing argument after" c.last
  | ['('] :: rest =>
    let (value, c) ← whole isNeeded ⟨['('], rest⟩
    match c.rest with
    | [')'] :: rest => return (value, ⟨[')'], rest⟩)
    | word :: _ => misplaced "expecting ')' instead of" word
    | [] => misplaced "expecting ')' after" c.last
  | [')'] :: _ => .error (Bytes.ofString "syntax error: unexpected ')'")
  | ['+'] :: word :: rest => return (word, ⟨word, rest⟩)
  | [['+']] => misplaced "missing argument after" ['+']
  | word :: rest =>
    if word ≠ "length".toList || rest.isEmpty then return (word, ⟨word, rest⟩)
    else
      let operand := rest.headD []
      return (Bytes.decimal operand.length, ⟨operand, rest.tail⟩)

mutual

/-- The value of operands that operators of some strength join. -/
def ofLevel : (fuel : Nat) → (levels : List (List String)) → (isNeeded : Bool) → Cursor → Outcome
  | 0, _, _, _ => .error []
  | fuel + 1, [], isNeeded, c => primary (ofLevel fuel operators) isNeeded c
  | fuel + 1, level :: stronger, isNeeded, c => do
    let (first, c) ← ofLevel fuel stronger isNeeded c
    further fuel level stronger isNeeded first c

/-- Joins a value with the operands behind it. -/
def further : (fuel : Nat) → (level : List String) → (stronger : List (List String)) → (isNeeded : Bool) →
    (first : Bytes) → Cursor → Outcome
  | 0, _, _, _, _, _ => .error []
  | fuel + 1, level, stronger, isNeeded, first, c =>
    match c.rest with
    | operator :: rest =>
      if !level.contains (String.ofList operator) then .ok (first, c)
      else do
        let (second, c) ← ofLevel fuel stronger (isNeeded && needsSecond operator first) ⟨operator, rest⟩
        further fuel level stronger isNeeded (← join isNeeded operator first second) c
    | [] => .ok (first, c)

end

/-- The value of a formula. -/
def whole (words : List Bytes) : Except Bytes Bytes := do
  let (value, c) ← ofLevel (16 * (words.length + 1)) operators true ⟨[], words⟩
  match c.rest with
  | word :: _ => misplaced "unexpected argument" word
  | [] => return value

end Formula

/-- Shows the value of a formula. -/
def calculate : Errand := do
  let words := (← read).arguments
  match if words.head? = some ['-', '-'] then words.tail else words with
  | [] => misuse (Bytes.ofString "missing operand") 2
  | words =>
    match Formula.whole words with
    | .error text =>
      blame text
      return 2
    | .ok value =>
      put (value ++ ['\n'])
      return if Formula.isNull value then 1 else 0

/-- Tells by its status whether a test holds. In brackets the last word closes them. -/
def test (inBrackets : Bool) : Errand := do
  let words := (← read).arguments
  if inBrackets && words.getLast? ≠ some [']'] then
    blame (Bytes.ofString "missing ']'")
    return 2
  else
    match Condition.evaluate (← ask .view) (if inBrackets then words.dropLast else words) with
    | .ok holds => return if holds then 0 else 1
    | .error text =>
      blame text
      return 2

end Stopwatch.Tool
