/-!
# White space and lines

`isBlank` is the Unicode property `White_Space`. `trim` removes blanks from both ends of a text, and
`words` are its longest blank-free parts.

A line ends at a line feed, and a carriage return just before that line feed belongs to the ending.
The last line needs no ending; an ending at the end of the text opens no further line.
-/

namespace Stopwatch.Text

/-! ### Blanks -/

/-- The characters with the Unicode property `White_Space`. -/
def isBlank (c : Char) : Bool :=
  let n := c.toNat
  (9 ≤ n && n ≤ 13) || n = 0x20 || n = 0x85 || n = 0xA0 || n = 0x1680 || (0x2000 ≤ n && n ≤ 0x200A) ||
    n = 0x2028 || n = 0x2029 || n = 0x202F || n = 0x205F || n = 0x3000

/-- A list of characters without the blanks at its two ends. -/
def trimChars (cs : List Char) : List Char :=
  ((cs.dropWhile isBlank).reverse.dropWhile isBlank).reverse

/-- A text without the blanks at its two ends. -/
def trim (s : String) : String := String.ofList (trimChars s.toList)

/-- Splits at blanks; `current` holds the word being read, last character first. -/
def wordsFrom (current : List Char) : List Char → List (List Char)
  | [] => if current.isEmpty then [] else [current.reverse]
  | c :: cs =>
    if isBlank c then
      if current.isEmpty then wordsFrom [] cs else current.reverse :: wordsFrom [] cs
    else wordsFrom (c :: current) cs

/-- The longest blank-free parts of a text, in order. -/
def words (cs : List Char) : List (List Char) := wordsFrom [] cs

/-! ### Lines -/

/-- Drops one carriage return at the end of a line. -/
def dropReturn (line : List Char) : List Char :=
  if line.getLast? = some '\r' then line.dropLast else line

/-- The lines of a text; `current` holds the line being read, last character first. -/
def linesFrom (current : List Char) : List Char → List (List Char)
  | [] => if current.isEmpty then [] else [current.reverse]
  | c :: cs =>
    if c = '\n' then dropReturn current.reverse :: linesFrom [] cs else linesFrom (c :: current) cs

/-- The lines of a text without their endings. -/
def lines (cs : List Char) : List (List Char) := linesFrom [] cs

end Stopwatch.Text
