import Stopwatch.Json.Value

/-!
# JSON tokens

`Token.chars` writes a token and `scan` reads a text as tokens. The lexer is an automaton that takes
one character at a time, so reading a text in two parts is reading it whole: nothing is looked at
twice, and a raw line break inside a string is refused wherever the string began.
-/

namespace Stopwatch.Json

inductive Token where
  | openArray
  | closeArray
  | openObject
  | closeObject
  | comma
  | colon
  | null
  | bool (b : Bool)
  | number (n : Literal)
  | string (s : Label)
deriving DecidableEq, Repr

/-! ### Strings -/

/-- A part of a string literal: a character as it is, or the number of a `\u` escape. -/
inductive Part where
  | char (c : Char)
  | code (n : Nat)
deriving DecidableEq, Repr

/-- The first half of a surrogate pair. -/
def isHighHalf (n : Nat) : Bool := 0xD800 ≤ n && n ≤ 0xDBFF

/-- The second half of a surrogate pair. -/
def isLowHalf (n : Nat) : Bool := 0xDC00 ≤ n && n ≤ 0xDFFF

/-- The text that the parts denote: two halves of a pair make one character, and a half on its own
makes none. -/
def decodeParts : List Part → Option (List Char)
  | [] => some []
  | .char c :: rest => (decodeParts rest).map (c :: ·)
  | .code n :: rest =>
    if isHighHalf n then
      match rest with
      | .code m :: rest =>
        if isLowHalf m then
          (decodeParts rest).map (Char.ofNat (0x10000 + (n - 0xD800) * 0x400 + (m - 0xDC00)) :: ·)
        else none
      | _ => none
    else if isLowHalf n then none
    else (decodeParts rest).map (Char.ofNat n :: ·)

/-- A lower-case hexadecimal digit. -/
def hexDigit (n : Nat) : Char := Nat.digitChar n

/-- One character inside a string literal. Only quotes, backslashes and the characters below the
space are escaped. -/
def escapeChar (c : Char) : List Char :=
  if c = '"' then ['\\', '"']
  else if c = '\\' then ['\\', '\\']
  else if c = '\n' then ['\\', 'n']
  else if c = '\r' then ['\\', 'r']
  else if c = '\t' then ['\\', 't']
  else if c = '\x08' then ['\\', 'b']
  else if c = '\x0c' then ['\\', 'f']
  else if c.toNat < 0x20 then ['\\', 'u', '0', '0', hexDigit (c.toNat / 16), hexDigit (c.toNat % 16)]
  else [c]

/-- A string literal. A label without a text is written as a lone half of a pair. -/
def labelChars : Label → List Char
  | some s => '"' :: (s.toList.flatMap escapeChar ++ ['"'])
  | none => "\"\\ud800\"".toList

/-! ### Writing -/

namespace Token

def chars : Token → List Char
  | openArray => ['[']
  | closeArray => [']']
  | openObject => ['\x7b']
  | closeObject => ['\x7d']
  | comma => [',']
  | colon => [':']
  | null => "null".toList
  | bool true => "true".toList
  | bool false => "false".toList
  | number n => n.chars
  | string s => labelChars s

/-- The token of one punctuation character. -/
def ofPunctuation? (c : Char) : Option Token :=
  if c = '[' then some openArray
  else if c = ']' then some closeArray
  else if c = '\x7b' then some openObject
  else if c = '\x7d' then some closeObject
  else if c = ',' then some comma
  else if c = ':' then some colon
  else none

/-- A run of other characters: one of three words, or a number. -/
def ofRun? (cs : List Char) : Option Token :=
  if cs = "null".toList then some null
  else if cs = "true".toList then some (bool true)
  else if cs = "false".toList then some (bool false)
  else (Literal.ofChars? cs).map number

end Token

/-! ### Reading -/

/-- The blanks allowed between tokens. -/
def isGap (c : Char) : Bool := c = ' ' || c = '\t' || c = '\n' || c = '\r'

/-- Where the lexer stands. Lists are kept last element first. -/
inductive Place where
  | gap
  | run (seen : List Char)
  | text (parts : List Part)
  | escape (parts : List Part)
  | hex (parts : List Part) (left : Nat) (value : Nat)
deriving DecidableEq, Repr

/-- A lexer in the middle of a text, with the tokens found so far, last first. -/
structure Lexer where
  place : Place
  tokens : List Token
deriving DecidableEq, Repr

namespace Lexer

def start : Lexer := ⟨.gap, []⟩

/-- The value of a hexadecimal digit of either case. -/
def hexValue? (c : Char) : Option Nat :=
  if '0' ≤ c && c ≤ '9' then some (c.toNat - 48)
  else if 'a' ≤ c && c ≤ 'f' then some (c.toNat - 87)
  else if 'A' ≤ c && c ≤ 'F' then some (c.toNat - 55)
  else none

/-- What a backslash and one more character stand for. -/
def escaped? (c : Char) : Option Char :=
  if c = '"' || c = '\\' || c = '/' then some c
  else if c = 'b' then some '\x08'
  else if c = 'f' then some '\x0c'
  else if c = 'n' then some '\n'
  else if c = 'r' then some '\r'
  else if c = 't' then some '\t'
  else none

/-- A character that belongs to no string and no run, after the tokens found so far. -/
def between (tokens : List Token) (c : Char) : Lexer :=
  if isGap c then ⟨.gap, tokens⟩
  else if c = '"' then ⟨.text [], tokens⟩
  else match Token.ofPunctuation? c with
    | some t => ⟨.gap, t :: tokens⟩
    | none => ⟨.run [c], tokens⟩

/-- Whether a character ends a run. -/
def endsRun (c : Char) : Bool := isGap c || c = '"' || (Token.ofPunctuation? c).isSome

/-- Takes one character. -/
def step (l : Lexer) (c : Char) : Option Lexer :=
  match l.place with
  | .gap => some (between l.tokens c)
  | .run seen =>
    if endsRun c then (Token.ofRun? seen.reverse).map fun t => between (t :: l.tokens) c
    else some ⟨.run (c :: seen), l.tokens⟩
  | .text parts =>
    if c = '"' then some ⟨.gap, .string ((decodeParts parts.reverse).map String.ofList) :: l.tokens⟩
    else if c = '\\' then some ⟨.escape parts, l.tokens⟩
    else if c.toNat < 0x20 then none
    else some ⟨.text (.char c :: parts), l.tokens⟩
  | .escape parts =>
    if c = 'u' then some ⟨.hex parts 4 0, l.tokens⟩
    else (escaped? c).map fun d => ⟨.text (.char d :: parts), l.tokens⟩
  | .hex parts left value =>
    (hexValue? c).map fun d =>
      let value := 16 * value + d
      if left ≤ 1 then ⟨.text (.code value :: parts), l.tokens⟩
      else ⟨.hex parts (left - 1) value, l.tokens⟩

/-- The tokens of a text that ends here. -/
def finish (l : Lexer) : Option (List Token) :=
  match l.place with
  | .gap => some l.tokens.reverse
  | .run seen => (Token.ofRun? seen.reverse).map fun t => (t :: l.tokens).reverse
  | _ => none

end Lexer

/-- The tokens of a text. -/
def scan (cs : List Char) : Option (List Token) :=
  (cs.foldlM Lexer.step Lexer.start).bind Lexer.finish

end Stopwatch.Json
