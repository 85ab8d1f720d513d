import Stopwatch.Shell.Numeral

/-!
# Arithmetic

The integer expressions of the shell: numbers, variables, assignments, and the usual operators with their
usual ranks, in words of 64 bits. An operand whose value cannot matter is read but not worked out.

- `evaluate`: the value of an expression with the assignments that it makes, or why it has none.
-/

namespace Stopwatch.Shell.Arithmetic

/-- Why an expression has no value. -/
inductive Failure where
  | divisionByZero
  | operandMissing
  /-- Something is left after the expression. -/
  | leftover
  | parenthesisMissing
  | colonMissing
  /-- The value of a variable is no number. -/
  | illegalNumber (text : Bytes)
deriving DecidableEq, Repr

/-- The complaint about an expression. -/
def Failure.message (e : Failure) (expression : Bytes) : Bytes :=
  let inside (reason : String) : Bytes :=
    Bytes.ofString ("arithmetic expression: " ++ reason ++ ": \"") ++ expression ++ ['"']
  match e with
  | .divisionByZero => inside "division by zero"
  | .operandMissing => inside "expecting primary"
  | .leftover => inside "expecting EOF"
  | .parenthesisMissing => inside "expecting ')'"
  | .colonMissing => inside "expecting ':'"
  | .illegalNumber text => Bytes.ofString "Illegal number: " ++ text

/-- What is left to read, and the assignments so far, latest first. -/
structure Working where
  rest : Bytes
  assigned : List (Bytes × Int)

abbrev Calculation := StateT Working (Except Failure)

/-- The binary operators that work on both their values, with their ranks; longer ones come first. -/
def operators : List (String × Nat) :=
  [("<<", 8), (">>", 8), ("==", 6), ("!=", 6), ("<=", 7), (">=", 7), ("<", 7), (">", 7), ("|", 3),
    ("^", 4), ("&", 5), ("+", 9), ("-", 9), ("*", 10), ("/", 10), ("%", 10)]

/-- The operators that an equals sign turns into an assignment. -/
def assigning : List String := ["<<", ">>", "|", "^", "&", "+", "-", "*", "/", "%"]

/-- A number as a word of 64 bits with a sign. -/
def word (n : Int) : Int := n.bmod 0x10000000000000000

/-- The value of a condition. -/
def truth (b : Bool) : Int := if b then 1 else 0

/-- Works on the bits of two words. -/
def bitwise (f : BitVec 64 → BitVec 64 → BitVec 64) (a b : Int) : Int :=
  (f (BitVec.ofInt 64 a) (BitVec.ofInt 64 b)).toInt

/-- The value of an operator on two numbers. -/
def apply (operator : String) (a b : Int) : Except Failure Int :=
  match operator with
  | "==" => return truth (a = b)
  | "!=" => return truth (a ≠ b)
  | "<=" => return truth (a ≤ b)
  | ">=" => return truth (a ≥ b)
  | "<" => return truth (a < b)
  | ">" => return truth (a > b)
  | "+" => return word (a + b)
  | "-" => return word (a - b)
  | "*" => return word (a * b)
  | "/" => if b = 0 then throw .divisionByZero else return word (a.tdiv b)
  | "%" => if b = 0 then throw .divisionByZero else return a.tmod b
  | "<<" => return bitwise (fun x _ => x <<< (b % 64).toNat) a b
  | ">>" => return bitwise (fun x _ => x.sshiftRight (b % 64).toNat) a b
  | "|" => return bitwise (· ||| ·) a b
  | "&" => return bitwise (· &&& ·) a b
  | "^" => return bitwise (· ^^^ ·) a b
  | _ => throw .leftover

def isBlank (c : Char) : Bool := c = ' ' || c = '\t' || c = '\n'

def isNameChar (c : Char) : Bool := c.isAlphanum || c = '_'

/-- The number that the value of a variable stands for; an empty one is zero. -/
def number (text : Bytes) : Except Failure Int :=
  let trimmed := ((text.dropWhile isBlank).reverse.dropWhile isBlank).reverse
  match Numeral.quantity true trimmed, Numeral.quoted? trimmed with
  | (n, []), none => return n
  | _, _ => throw (.illegalNumber text)

/-- Skips blanks and gives what is left. -/
def remaining : Calculation Bytes := do
  let w ← get
  let rest := w.rest.dropWhile isBlank
  set { w with rest }
  return rest

def take (length : Nat) : Calculation Unit := modify fun w => { w with rest := w.rest.drop length }

/-- The value of a variable. -/
def valueOf (lookup : Bytes → Bytes) (name : Bytes) : Calculation Int := do
  match (← get).assigned.lookup name with
  | some n => return n
  | none => (number (lookup name) : Except Failure Int)

/-- The operator of an assignment that comes next, without its equals sign. -/
def assignment? (cs : Bytes) : Option String :=
  if ['='].isPrefixOf cs && !(['=', '='].isPrefixOf cs) then some ""
  else assigning.find? fun o => (o.toList ++ ['=']).isPrefixOf cs

/-- The operator that comes next, if its rank is high enough. -/
def operator? (rank : Nat) (cs : Bytes) : Option (String × Nat) :=
  if (assignment? cs).isSome || ['|', '|'].isPrefixOf cs || ['&', '&'].isPrefixOf cs then none
  else (operators.find? fun o => o.1.toList.isPrefixOf cs).filter fun o => rank ≤ o.2

mutual

/-- An assignment, or an expression without one. -/
def assignment (lookup : Bytes → Bytes) (live : Bool) : (fuel : Nat) → Calculation Int
  | 0 => throw .operandMissing
  | fuel + 1 => do
    let cs ← remaining
    let name := cs.takeWhile isNameChar
    let after := (cs.drop name.length).dropWhile isBlank
    match if name.head?.all Char.isDigit then none else assignment? after with
    | none => choice lookup live fuel
    | some operator =>
      modify fun w => { w with rest := after.drop (operator.length + 1) }
      let operand ← assignment lookup live fuel
      if !live then return operand
      let value ←
        if operator.isEmpty then pure operand
        else do (apply operator (← valueOf lookup name) operand : Except Failure Int)
      modify fun w => { w with assigned := (name, value) :: w.assigned }
      return value

/-- A choice between two values, or an expression without one. -/
def choice (lookup : Bytes → Bytes) (live : Bool) : (fuel : Nat) → Calculation Int
  | 0 => throw .operandMissing
  | fuel + 1 => do
    let condition ← either lookup live fuel
    if (← remaining).head? ≠ some '?' then return condition
    take 1
    let yes ← assignment lookup (live && condition ≠ 0) fuel
    if (← remaining).head? ≠ some ':' then throw .colonMissing
    take 1
    let no ← choice lookup (live && condition = 0) fuel
    return if condition ≠ 0 then yes else no

/-- Alternatives. -/
def either (lookup : Bytes → Bytes) (live : Bool) : (fuel : Nat) → Calculation Int
  | 0 => throw .operandMissing
  | fuel + 1 => do
    let first ← both lookup live fuel
    if !(['|', '|'].isPrefixOf (← remaining)) then return first
    take 2
    let second ← either lookup (live && first = 0) fuel
    return truth (first ≠ 0 || second ≠ 0)

/-- Conditions that all have to hold. -/
def both (lookup : Bytes → Bytes) (live : Bool) : (fuel : Nat) → Calculation Int
  | 0 => throw .operandMissing
  | fuel + 1 => do
    let first ← expression lookup live 0 fuel
    if !(['&', '&'].isPrefixOf (← remaining)) then return first
    take 2
    let second ← both lookup (live && first ≠ 0) fuel
    return truth (first ≠ 0 && second ≠ 0)

/-- Operands joined by operators of at least some rank. -/
def expression (lookup : Bytes → Bytes) (live : Bool) (rank : Nat) : (fuel : Nat) → Calculation Int
  | 0 => throw .operandMissing
  | fuel + 1 => do
    let first ← operand lookup live fuel
    continued lookup live rank first fuel

/-- Goes on after a first operand. -/
def continued (lookup : Bytes → Bytes) (live : Bool) (rank : Nat) (first : Int) :
    (fuel : Nat) → Calculation Int
  | 0 => throw .operandMissing
  | fuel + 1 => do
    match operator? rank (← remaining) with
    | none => return first
    | some (operator, r) =>
      take operator.length
      let second ← expression lookup live (r + 1) fuel
      if live then continued lookup live rank (← (apply operator first second : Except Failure Int)) fuel
      else continued lookup live rank first fuel

/-- A number, a variable, an expression in parentheses, or one of these behind a sign. -/
def operand (lookup : Bytes → Bytes) (live : Bool) : (fuel : Nat) → Calculation Int
  | 0 => throw .operandMissing
  | fuel + 1 => do
    match ← remaining with
    | '(' :: _ =>
      take 1
      let value ← assignment lookup live fuel
      if (← remaining).head? ≠ some ')' then throw .parenthesisMissing
      take 1
      return value
    | '-' :: _ =>
      take 1
      return word (-(← operand lookup live fuel))
    | '+' :: _ =>
      take 1
      operand lookup live fuel
    | '!' :: _ =>
      take 1
      return truth ((← operand lookup live fuel) = 0)
    | '~' :: _ =>
      take 1
      return -(← operand lookup live fuel) - 1
    | cs =>
      let name := cs.takeWhile isNameChar
      take name.length
      match name with
      | [] => throw .operandMissing
      | c :: _ =>
        if c.isDigit then
          match Numeral.numeral? name with
          | some (n, []) => return min n (Numeral.wordCount / 2 - 1)
          | _ => throw .leftover
        else if live then valueOf lookup name
        else return 0

end

/-- The value of an expression, and its assignments in the order in which they are made. -/
def evaluate (lookup : Bytes → Bytes) (text : Bytes) : Except Failure (Int × List (Bytes × Int)) := do
  let (value, w) ← (assignment lookup true (8 * text.length + 16)).run ⟨text, []⟩
  if (w.rest.dropWhile isBlank).isEmpty then return (value, w.assigned.reverse)
  else throw .leftover

end Stopwatch.Shell.Arithmetic
