import Stopwatch.Text.Utf8

/-!
# Bytes

What processes read and write. A byte is kept as the character with its number, so that it can be read and
matched as a text.
-/

namespace Stopwatch

/-- Bytes, each as the character with its number. -/
abbrev Bytes := List Char

namespace Bytes

def ofByteArray (bytes : ByteArray) : Bytes := bytes.toList.map fun b => Char.ofNat b.toNat

def ofString (s : String) : Bytes := ofByteArray s.toUTF8

def toByteList (bytes : Bytes) : List UInt8 := bytes.map fun c => UInt8.ofNat c.toNat

def toByteArray (bytes : Bytes) : ByteArray := ⟨bytes.toByteList.toArray⟩

/-- Whether two texts stand in the order of their bytes. -/
def inOrder : Bytes → Bytes → Bool
  | [], _ => true
  | _ :: _, [] => false
  | a :: as, b :: bs => if a = b then inOrder as bs else a.toNat < b.toNat

/-- The text that the bytes encode. -/
def toText (bytes : Bytes) : String := Text.decodeLossy bytes.toByteList

/-- A number in decimal digits. -/
def decimal (n : Nat) : Bytes := Nat.toDigits 10 n

/-- The number that decimal digits make. -/
def number? (cs : Bytes) : Option Nat :=
  if cs.isEmpty || !cs.all Char.isDigit then none else some (Nat.ofDigitChars 10 cs 0)

/-- The parts of a text between a separator; `current` is reversed. -/
def splitFrom (separator : Char) (current : Bytes) : Bytes → List Bytes
  | [] => [current.reverse]
  | c :: cs => if c = separator then current.reverse :: splitFrom separator [] cs
    else splitFrom separator (c :: current) cs

/-- The parts of a text between a separator. -/
def split (separator : Char) (text : Bytes) : List Bytes := splitFrom separator [] text

/-- The lines of a text, each with its line feed if it has one; `current` is reversed. -/
def linesFrom (current : Bytes) : Bytes → List Bytes
  | [] => if current.isEmpty then [] else [current.reverse]
  | c :: cs => if c = '\n' then (c :: current).reverse :: linesFrom [] cs else linesFrom (c :: current) cs

/-- The lines of a text, each with its line feed if it has one. -/
def lines (text : Bytes) : List Bytes := linesFrom [] text

/-- A line without its line feed. -/
def bare (line : Bytes) : Bytes := line.takeWhile (· ≠ '\n')

end Bytes

end Stopwatch
