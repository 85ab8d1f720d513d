import Stopwatch.Json.Printer

/-!
# Pieces of a page

A page is a list of pieces. Tags and fixed text are chosen by the author of the page; text that comes
from a user is a piece of its own, or an attribute value, and is escaped wherever it goes.

Five characters have a meaning in markup and are written as entities. Inside a script element, JSON text
is kept free of the three characters that could end the element; they only occur inside its strings,
where they may be written as escapes. In both cases one character after the other is replaced in the
whole text.
-/

namespace Stopwatch.Markup

/-! ### Text inside markup -/

/-- A text with another text in the place of each occurrence of a character. -/
def replaceChar (c : Char) (text cs : List Char) : List Char :=
  cs.flatMap fun d => if d = c then text else [d]

/-- Replaces the characters of a table row by row, each in what the rows before it have left. -/
def replaceInTurn (table : List (Char × String)) (cs : List Char) : List Char :=
  table.foldl (fun cs row => replaceChar row.1 row.2.toList cs) cs

/-- The entities. Ampersands come first, because all entities begin with one. -/
def entities : List (Char × String) :=
  [('&', "&amp;"), ('<', "&lt;"), ('>', "&gt;"), ('"', "&quot;"), ('\'', "&#39;")]

/-- A text as element content or attribute value. -/
def escape (cs : List Char) : List Char := replaceInTurn entities cs

/-- How JSON spells the characters that could end a script element. -/
def scriptEscapes : List (Char × String) :=
  [('<', "\\u003c"), ('>', "\\u003e"), ('&', "\\u0026")]

/-- JSON text inside a script element. -/
def scriptSafe (cs : List Char) : List Char := replaceInTurn scriptEscapes cs

/-! ### Pieces -/

inductive Piece where
  /-- The tag that opens an element. -/
  | start (name : String) (attributes : List (String × String))
  /-- The tag that closes an element. -/
  | stop (name : String)
  /-- Text of the page itself, written as it is. -/
  | fixed (s : String)
  /-- Text of the user. -/
  | text (s : String)
  /-- A JSON value inside a script element. -/
  | payload (value : Json.Value)

namespace Piece

/-- An attribute, after a space. -/
def attributeChars (a : String × String) : List Char :=
  ' ' :: a.1.toList ++ ['=', '"'] ++ escape a.2.toList ++ ['"']

def chars : Piece → List Char
  | start name attributes => '<' :: name.toList ++ attributes.flatMap attributeChars ++ ['>']
  | stop name => '<' :: '/' :: name.toList ++ ['>']
  | fixed s => s.toList
  | text s => escape s.toList
  | payload v => scriptSafe v.compactChars

/-- Whether a piece is a tag. -/
def isTag : Piece → Bool
  | start _ _ => true
  | stop _ => true
  | _ => false

/-- An element without attributes around some pieces. -/
def element (name : String) (content : List Piece) : List Piece :=
  start name [] :: (content ++ [stop name])

/-- An element of a class around some pieces. -/
def classed (name cls : String) (content : List Piece) : List Piece :=
  start name [("class", cls)] :: (content ++ [stop name])

/-- A line break. -/
def newLine : Piece := fixed "\n"

end Piece

/-- The text of a page. -/
def render (page : List Piece) : String := String.ofList (page.flatMap Piece.chars)

end Stopwatch.Markup
