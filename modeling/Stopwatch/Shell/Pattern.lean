import Stopwatch.Bytes

/-!
# Patterns

The patterns of the shell: an asterisk for any characters, a question mark for one, and classes in
brackets. A character that was quoted stands for itself, and so does one behind a backslash.

- `items`: what a pattern consists of;
- `fits`: whether a text fits;
- `dropStart`, `dropEnd`: a text without a part that fits.
-/

namespace Stopwatch.Shell.Pattern

/-- A character of a word and whether it was quoted. -/
structure Mark where
  char : Char
  quoted : Bool
deriving DecidableEq, Repr

/-- A member of a class. -/
inductive Member where
  | range (first last : Char)
  /-- A class with a name. -/
  | named (name : String)
deriving DecidableEq, Repr

/-- What one item of a pattern matches. -/
inductive Item where
  | char (c : Char)
  | any
  | run
  | oneOf (negated : Bool) (members : List Member)
deriving DecidableEq, Repr

/-- The names of classes. -/
def classNames : List String :=
  ["alnum", "cntrl", "lower", "space", "alpha", "digit", "print", "upper", "blank", "graph", "punct", "xdigit"]

/-- Whether a character belongs to the class with a name. -/
def isInClass (name : String) (c : Char) : Bool :=
  match name with
  | "alnum" => c.isAlphanum
  | "alpha" => c.isAlpha
  | "blank" => c = ' ' || c = '\t'
  | "cntrl" => c.toNat < 32 || c.toNat = 127
  | "digit" => c.isDigit
  | "graph" => 33 ≤ c.toNat && c.toNat ≤ 126
  | "lower" => c.isLower
  | "print" => 32 ≤ c.toNat && c.toNat ≤ 126
  | "punct" => 33 ≤ c.toNat && c.toNat ≤ 126 && !c.isAlphanum
  | "space" => c = ' ' || ('\t' ≤ c && c ≤ '\r')
  | "upper" => c.isUpper
  | "xdigit" => c.isDigit || ('a' ≤ c.toLower && c.toLower ≤ 'f')
  | _ => false

def Member.has (c : Char) : Member → Bool
  | .range first last => first ≤ c && c ≤ last
  | .named name => isInClass name c

/-- The class with a name that comes next inside of brackets, after its own opening bracket. -/
def className? (cs : Bytes) : Option (String × Bytes) :=
  (classNames.find? fun name => (':' :: name.toList ++ [':', ']']).isPrefixOf cs).map fun name =>
    (name, cs.drop (name.length + 3))

/-- The members of a class up to its closing bracket, and what comes after that, if there is one. A bracket
that comes first is a member. `fuel` bounds the number of members. -/
def membersFrom (isFirst : Bool) : (fuel : Nat) → Bytes → Option (List Member × Bytes)
  | 0, _ => none
  | _, [] => none
  | fuel + 1, c :: cs =>
    if c = ']' && !isFirst then some ([], cs)
    else
      match if c = '[' then className? cs else none with
      | some (name, rest) => (membersFrom false fuel rest).map fun (ms, rest) => (.named name :: ms, rest)
      | none =>
        let (c, cs) := if c = '\\' then (cs.headD '\\', cs.tail) else (c, cs)
        match cs with
        | '-' :: d :: rest =>
          if d = ']' then (membersFrom false fuel cs).map fun (ms, rest) => (.range c c :: ms, rest)
          else
            let (d, rest) := if d = '\\' then (rest.headD '\\', rest.tail) else (d, rest)
            (membersFrom false fuel rest).map fun (ms, rest) => (.range c d :: ms, rest)
        | cs => (membersFrom false fuel cs).map fun (ms, rest) => (.range c c :: ms, rest)

/-- Reads a pattern; `fuel` bounds the number of its items. -/
def itemsFrom : (fuel : Nat) → Bytes → List Item
  | 0, _ => []
  | _, [] => []
  | fuel + 1, c :: cs =>
    if c = '*' then .run :: itemsFrom fuel cs
    else if c = '?' then .any :: itemsFrom fuel cs
    else if c = '\\' then
      match cs with
      | [] => [.char '\\']
      | d :: rest => .char d :: itemsFrom fuel rest
    else if c = '[' then
      let negated := cs.head? = some '!'
      match membersFrom true (cs.length + 1) (if negated then cs.tail else cs) with
      | some (members, rest) => .oneOf negated members :: itemsFrom fuel rest
      | none => .char '[' :: itemsFrom fuel cs
    else .char c :: itemsFrom fuel cs

/-- A pattern as it is read, with a backslash in front of what was quoted. -/
def source (ms : List Mark) : Bytes := ms.flatMap fun m => if m.quoted then ['\\', m.char] else [m.char]

/-- The items of a pattern that is written with backslashes. -/
def itemsOf (cs : Bytes) : List Item := itemsFrom (cs.length + 1) cs

/-- The items of a pattern. -/
def items (ms : List Mark) : List Item := itemsOf (source ms)

/-- Whether an item stands for more than one text. -/
def Item.isOpen : Item → Bool
  | .char _ => false
  | _ => true

/-- Whether a word has a character with a meaning for patterns. -/
def isActive (ms : List Mark) : Bool :=
  ms.any fun m => !m.quoted && (m.char = '*' || m.char = '?' || m.char = '[')

/-- All ends of a list, the longest first. -/
def suffixes {α : Type} : List α → List (List α)
  | [] => [[]]
  | a :: as => (a :: as) :: suffixes as

/-- Whether items match a whole text. -/
def fits : List Item → Bytes → Bool
  | [], s => s.isEmpty
  | .char c :: rest, s => match s with
    | [] => false
    | d :: ds => c = d && fits rest ds
  | .any :: rest, s => match s with
    | [] => false
    | _ :: ds => fits rest ds
  | .oneOf negated members :: rest, s => match s with
    | [] => false
    | d :: ds => (members.any (Member.has d)) != negated && fits rest ds
  | .run :: rest, s => (suffixes s).any fun t => fits rest t

/-- What stands between two parameters in a text that will be split. No value has it. -/
def borderMark : Char := '\x00'

/-- The places where the part of a text that fits can start or end. A part counts up to the first border of
parameters, and a place that is looked for from the start is not behind that. -/
def cuts (pattern : List Item) (part : Nat → Bytes) (last : Nat) : List Nat :=
  (List.range (last + 1)).filter fun n => fits pattern ((part n).takeWhile (· ≠ borderMark))

/-- The length of what stands in front of the first border of parameters. -/
def lengthToBorder (s : Bytes) : Nat := (s.takeWhile (· ≠ borderMark)).length

/-- A text without the part at its start that fits, the longest or the shortest such part. -/
def dropStart (longest : Bool) (pattern : List Item) (s : Bytes) : Bytes :=
  let cut := if longest then (cuts pattern s.take s.length).getLast?
    else (cuts pattern s.take (lengthToBorder s)).head?
  s.drop (cut.getD 0)

/-- A text without the part at its end that fits, the longest or the shortest such part. -/
def dropEnd (longest : Bool) (pattern : List Item) (s : Bytes) : Bytes :=
  let cut := if longest then (cuts pattern s.drop (lengthToBorder s)).head?
    else (cuts pattern s.drop s.length).getLast?
  s.take (cut.getD s.length)

end Stopwatch.Shell.Pattern
