import Stopwatch.Json.Token

/-!
# Printing JSON

Compact text is the tokens of a value, one after the other. Indented text puts every item and member
on a line of its own, two spaces further in than its container, and a space after each colon; empty
containers stay on one line.
-/

namespace Stopwatch.Json

namespace Value

mutual

/-- The tokens of a value. -/
def tokens : Value → List Token
  | null => [.null]
  | bool b => [.bool b]
  | number n => [.number n]
  | string s => [.string s]
  | array items => .openArray :: (itemTokens items ++ [.closeArray])
  | object members => .openObject :: (memberTokens members ++ [.closeObject])

/-- The tokens of items with commas between them. -/
def itemTokens : List Value → List Token
  | [] => []
  | [v] => v.tokens
  | v :: w :: rest => v.tokens ++ .comma :: itemTokens (w :: rest)

/-- The tokens of members with commas between them. -/
def memberTokens : List (Label × Value) → List Token
  | [] => []
  | [(s, v)] => .string s :: .colon :: v.tokens
  | (s, v) :: m :: rest => .string s :: .colon :: (v.tokens ++ .comma :: memberTokens (m :: rest))

end

/-- The characters of compact text. -/
def compactChars (v : Value) : List Char := v.tokens.flatMap Token.chars

/-- Compact text. -/
def compact (v : Value) : String := String.ofList v.compactChars

/-- A new line at an indentation depth. -/
def newLine (depth : Nat) : List Char := '\n' :: List.replicate (2 * depth) ' '

mutual

/-- The characters of indented text, inside `depth` containers. -/
def indentedChars (depth : Nat) : Value → List Char
  | array [] => ['[', ']']
  | array (v :: rest) =>
    '[' :: (indentedItems (depth + 1) (v :: rest) ++ newLine depth ++ [']'])
  | object [] => ['\x7b', '\x7d']
  | object (m :: rest) =>
    '\x7b' :: (indentedMembers (depth + 1) (m :: rest) ++ newLine depth ++ ['\x7d'])
  | null => Token.null.chars
  | bool b => (Token.bool b).chars
  | number n => n.chars
  | string s => labelChars s

/-- Items, each on its own line. -/
def indentedItems (depth : Nat) : List Value → List Char
  | [] => []
  | [v] => newLine depth ++ v.indentedChars depth
  | v :: w :: rest => newLine depth ++ v.indentedChars depth ++ ',' :: indentedItems depth (w :: rest)

/-- Members, each on its own line. -/
def indentedMembers (depth : Nat) : List (Label × Value) → List Char
  | [] => []
  | [(s, v)] => newLine depth ++ labelChars s ++ [':', ' '] ++ v.indentedChars depth
  | (s, v) :: m :: rest =>
    newLine depth ++ labelChars s ++ [':', ' '] ++ v.indentedChars depth ++
      ',' :: indentedMembers depth (m :: rest)

end

/-- Indented text. -/
def indented (v : Value) : String := String.ofList (v.indentedChars 0)

end Value

end Stopwatch.Json
