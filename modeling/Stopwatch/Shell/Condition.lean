import Stopwatch.Shell.Numeral
import Stopwatch.System.Loader

/-!
# Conditions

The tests of the shell on texts, numbers and files. How the words of a test belong together depends on how
many there are: a test of three words with a comparison in the middle is that comparison, whatever the words
beside it look like.

- `evaluate`: whether a test holds, or the complaint about it.
-/

namespace Stopwatch.Shell.Condition

open Stopwatch.System

/-- What a word of a test stands for. -/
inductive Token where
  /-- There is no word. -/
  | nothing
  | operand
  | unary (operator : String)
  | binary (operator : String)
  | not
  | and
  | or
  | opening
  | closing
deriving DecidableEq, Repr

/-- The operators of tests on one operand. -/
def unaryOperators : List String :=
  ["-n", "-z", "-b", "-c", "-d", "-e", "-f", "-g", "-h", "-k", "-L", "-p", "-r", "-s", "-S", "-t", "-u",
    "-w", "-x", "-O", "-G"]

/-- The operators of tests on two operands. -/
def binaryOperators : List String :=
  ["=", "==", "!=", "<", ">", "-eq", "-ne", "-lt", "-le", "-gt", "-ge", "-nt", "-ot", "-ef"]

def isBinary (word : Bytes) : Bool := binaryOperators.contains (String.ofList word)

/-- Whether a word that could be an operator of one operand is an operand itself: nothing follows it, or a
comparison does. -/
def standsAlone : List Bytes → Bool
  | [] => true
  | [_] => false
  | next :: _ => isBinary next

/-- What the first word stands for. -/
def token : List Bytes → Token
  | [] => .nothing
  | first :: rest =>
    let text := String.ofList first
    if unaryOperators.contains text then if standsAlone rest then .operand else .unary text
    else if binaryOperators.contains text then .binary text
    else match text with
      | "!" => .not
      | "-a" => .and
      | "-o" => .or
      | "(" => if rest.isEmpty then .operand else .opening
      | ")" => .closing
      | _ => .operand

/-- Whether a path names a symbolic link. -/
def isLink (v : View) (operand : Bytes) : Bool :=
  match v.follow operand.toText .name with
  | .ok (.found _ (.link _)) => true
  | _ => false

/-- A test of one operand. -/
def unary (v : View) (operator : String) (operand : Bytes) : Bool :=
  let node : Option Node := (v.find? operand.toText).map (·.2)
  let mode : Nat := (node.bind v.disk.fileOf?).elim 0 File.mode
  match operator with
  | "-n" => !operand.isEmpty
  | "-z" => operand.isEmpty
  | "-e" => node.isSome
  | "-f" => node.any Disk.isFileNode
  | "-d" => node == some .directory
  | "-r" => node.isSome
  | "-w" => node.isSome
  | "-O" => node.isSome
  | "-G" => node.isSome
  | "-x" => node == some .directory || node.any (Loader.isExecutable v.disk)
  | "-s" => match node with
    | some (.file serial) => 0 < (v.disk.file serial).content.size
    | some .directory => true
    | some (.tool _) => true
    | _ => false
  | "-c" => match node with
    | some (.device _) => true
    | _ => false
  | "-p" => match node with
    | some (.fifo _) => true
    | _ => false
  | "-u" => mode &&& 0o4000 ≠ 0
  | "-g" => mode &&& 0o2000 ≠ 0
  | "-k" => mode &&& 0o1000 ≠ 0
  | "-h" => isLink v operand
  | "-L" => isLink v operand
  | _ => false

/-- When the content of what a path leads to was written. -/
def modified? (v : View) (operand : Bytes) : Option Nat :=
  (v.find? operand.toText).map fun found => (v.disk.fileOf? found.2).elim 0 File.modified

/-- Whether what a path leads to is newer than what another one leads to. -/
def isNewer (v : View) (a b : Bytes) : Bool :=
  match modified? v a, modified? v b with
  | some m, some n => n < m
  | _, _ => false

/-- Whether two paths lead to the same thing. -/
def isSame (v : View) (a b : Bytes) : Bool :=
  match v.find? a.toText, v.find? b.toText with
  | some (_, .file m), some (_, .file n) => m = n
  | some (place, _), some (other, _) => place = other
  | _, _ => false

/-- The number that a word stands for. -/
def number (text : Bytes) : Except Bytes Int :=
  let trimmed := ((text.dropWhile (· = ' ')).reverse.dropWhile (· = ' ')).reverse
  match Numeral.integer? trimmed with
  | some n =>
    if n.natAbs < Numeral.wordCount / 2 then return n else throw (Bytes.ofString "Illegal number: " ++ text)
  | none => throw (Bytes.ofString "Illegal number: " ++ text)

/-- A test of two operands. -/
def binary (v : View) (operator : String) (a b : Bytes) : Except Bytes Bool :=
  let numeric (compare : Int → Int → Bool) : Except Bytes Bool :=
    return compare (← number a) (← number b)
  match operator with
  | "=" => return a = b
  | "==" => return a = b
  | "!=" => return a ≠ b
  | "<" => return !Bytes.inOrder b a
  | ">" => return !Bytes.inOrder a b
  | "-eq" => numeric fun m n => m = n
  | "-ne" => numeric fun m n => m ≠ n
  | "-lt" => numeric fun m n => m < n
  | "-le" => numeric fun m n => m ≤ n
  | "-gt" => numeric fun m n => m > n
  | "-ge" => numeric fun m n => m ≥ n
  | "-nt" => return isNewer v a b
  | "-ot" => return isNewer v b a
  | "-ef" => return isSame v a b
  | _ => return false

/-- A test works on the words from the current one on, and leaves the words from its last one on. -/
abbrev Outcome := Except Bytes (Bool × List Bytes)

mutual

/-- Alternatives. `kind` is what the first word stands for. -/
def alternatives (v : View) (kind : Token) (words : List Bytes) : (fuel : Nat) → Outcome
  | 0 => throw []
  | fuel + 1 => do
    let (first, left) ← conjunction v kind words fuel
    match token left.tail with
    | .or =>
      let more := left.drop 2
      let (second, left) ← alternatives v (token more) more fuel
      return (first || second, left)
    | _ => return (first, left)

/-- Tests that all have to hold. -/
def conjunction (v : View) (kind : Token) (words : List Bytes) : (fuel : Nat) → Outcome
  | 0 => throw []
  | fuel + 1 => do
    let (first, left) ← negation v kind words fuel
    match token left.tail with
    | .and =>
      let more := left.drop 2
      let (second, left) ← conjunction v (token more) more fuel
      return (first && second, left)
    | _ => return (first, left)

/-- A test, perhaps turned around. -/
def negation (v : View) (kind : Token) (words : List Bytes) : (fuel : Nat) → Outcome
  | 0 => throw []
  | fuel + 1 =>
    if kind = .not then do
      let next := token words.tail
      let (result, left) ← negation v next (if next = .nothing then words else words.tail) fuel
      return (!result, left)
    else primary v kind words fuel

/-- One test. -/
def primary (v : View) (kind : Token) (words : List Bytes) : (fuel : Nat) → Outcome
  | 0 => throw []
  | fuel + 1 =>
    match kind, words with
    | .nothing, words => return (false, words)
    | .opening, _ :: inner => do
      if token inner = .closing then return (false, inner)
      let (result, left) ← alternatives v (token inner) inner fuel
      if token left.tail = .closing then return (result, left.tail)
      else throw (Bytes.ofString "closing paren expected")
    | .unary operator, _ :: rest =>
      match rest with
      | [] => throw (Bytes.ofString (operator ++ ": argument expected"))
      | operand :: _ => return (unary v operator operand, rest)
    | _, words =>
      match token words.tail, words.tail with
      | .binary operator, _ :: operands =>
        match operands with
        | [] => throw (Bytes.ofString (operator ++ ": argument expected"))
        | second :: _ => do return (← binary v operator (words.head?.getD []) second, operands)
      | _, _ => return (!(words.head?.getD []).isEmpty, words)

end

/-- Whether the words as a whole hold, when the first one stands for `kind`. -/
def whole (v : View) (kind : Token) (words : List Bytes) : Except Bytes Bool := do
  let (result, left) ← alternatives v kind words (6 * words.length + 8)
  match left with
  | word :: _ :: _ =>
    throw (word ++ Bytes.ofString ((if word.isEmpty then "" else ": ") ++ "unexpected operator"))
  | _ => return result

/-- Whether a test holds. -/
def evaluate (v : View) (words : List Bytes) : Except Bytes Bool :=
  match words with
  | [] => return false
  | [a, operator, _] =>
    if isBinary operator then whole v .operand words else small a words
  | [a, _, _, _] => small a words
  | _ => whole v (token words) words
where
  /-- A test of a few words, the first of which may turn it around. -/
  small (first : Bytes) (words : List Bytes) : Except Bytes Bool :=
    if first = ['('] && words.getLast? = some [')'] then
      let inner := words.tail.dropLast
      whole v (token inner) inner
    else if first = ['!'] then
      return !(← inverted words.tail)
    else whole v (token words) words
  /-- What is behind an exclamation mark. -/
  inverted : List Bytes → Except Bytes Bool
    | [] => return false
    | [a, operator, b] =>
      if isBinary operator then whole v .operand [a, operator, b]
      else if a = ['('] && b = [')'] then whole v (token [operator]) [operator]
      else if a = ['!'] then return !(← whole v (token [operator, b]) [operator, b])
      else whole v (token [a, operator, b]) [a, operator, b]
    | words => whole v (token words) words

end Stopwatch.Shell.Condition
