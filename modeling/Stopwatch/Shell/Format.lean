import Stopwatch.Decimal.Scientific
import Stopwatch.Shell.Numeral

/-!
# Formatted output

The escapes and conversions of the commands that print text.
-/

namespace Stopwatch.Shell.Format

open Numeral (Complaint quantity fraction wordCount)

def isOctal (c : Char) : Bool := '0' ≤ c && c ≤ '7'

/-- A byte as a character. -/
def byte (n : Nat) : Char := Char.ofNat (n % 256)

/-- Up to so many octal digits, and what comes after them. -/
def octal (most : Nat) (cs : Bytes) : Bytes × Bytes :=
  let digits := (cs.take most).takeWhile isOctal
  (digits, cs.drop digits.length)

def octalValue (digits : Bytes) : Nat := Nat.ofDigitChars 8 digits 0

/-- The character that a letter after a backslash stands for. -/
def letter? : Char → Option Char
  | 'a' => some '\x07'
  | 'b' => some '\x08'
  | 'e' => some '\x1b'
  | 'f' => some '\x0c'
  | 'n' => some '\n'
  | 'r' => some '\r'
  | 't' => some '\t'
  | 'v' => some '\x0b'
  | '\\' => some '\\'
  | _ => none

/-- Replaces the escapes in an argument, in which an octal number may start with one more zero. The flag
tells that an escape has ended all output. `fuel` bounds the number of characters. -/
def argument : (fuel : Nat) → Bytes → Bytes × Bool
  | 0, cs => (cs, false)
  | fuel + 1, cs =>
    match cs with
    | [] => ([], false)
    | '\\' :: 'c' :: _ => ([], true)
    | '\\' :: '0' :: rest =>
      let (digits, after) := octal 3 rest
      let (more, stop) := argument fuel after
      (byte (octalValue digits) :: more, stop)
    | '\\' :: c :: rest =>
      if isOctal c then
        let (digits, after) := octal 3 (c :: rest)
        let (more, stop) := argument fuel after
        (byte (octalValue digits) :: more, stop)
      else match letter? c with
      | some d =>
        let (more, stop) := argument fuel rest
        (d :: more, stop)
      | none =>
        let (more, stop) := argument fuel (c :: rest)
        ('\\' :: more, stop)
    | c :: rest =>
      let (more, stop) := argument fuel rest
      (c :: more, stop)

/-- The output of a command that prints its arguments with blanks between them. -/
def echo (arguments : List Bytes) : Bytes :=
  let (arguments, newline) := match arguments with
    | ['-', 'n'] :: rest => (rest, false)
    | all => (all, true)
  let text := [' '].intercalate arguments
  let (out, stop) := argument (text.length + 1) text
  out ++ if newline && !stop then ['\n'] else []

/-! ### Conversions -/

/-- A number in a conversion. -/
inductive Size where
  | number (n : Nat)
  /-- The next argument has the number. -/
  | argument
deriving DecidableEq, Repr, Inhabited

/-- A conversion: flags, the least width, the precision, and the letter. -/
structure Conversion where
  flags : Bytes
  width : Size
  precision : Option Size
  letter : Char
  /-- How it was written. -/
  source : Bytes
deriving Repr, Inhabited

/-- An item of a format. -/
inductive Item where
  | text (c : Char)
  | conversion (c : Conversion)
  /-- A percent sign at the end. -/
  | unfinished
deriving Repr

/-- Reads a number or a star. -/
def size (cs : Bytes) : Size × Bytes :=
  match cs with
  | '*' :: rest => (.argument, rest)
  | cs =>
    let digits := cs.takeWhile Char.isDigit
    (.number (Nat.ofDigitChars 10 digits 0), cs.drop digits.length)

/-- Reads a conversion after its percent sign. -/
def conversion? (cs : Bytes) : Option (Conversion × Bytes) :=
  let flags := cs.takeWhile fun c => ['-', '+', ' ', '0', '#'].contains c
  let (width, after) := size (cs.drop flags.length)
  let (precision, after) := match after with
    | '.' :: rest =>
      let (precision, rest) := size rest
      (some precision, rest)
    | rest => (none, rest)
  match after with
  | [] => none
  | c :: rest => some (⟨flags, width, precision, c, '%' :: cs.take (cs.length - rest.length)⟩, rest)

/-- Reads a format; `fuel` bounds the number of its items. -/
def itemsFrom : (fuel : Nat) → Bytes → List Item
  | 0, _ => []
  | _, [] => []
  | fuel + 1, c :: cs =>
    if c = '%' then
      if cs.head? = some '%' then .text '%' :: itemsFrom fuel cs.tail
      else match conversion? cs with
        | some (conversion, rest) => .conversion conversion :: itemsFrom fuel rest
        | none => [.unfinished]
    else if c = '\\' then
      match cs with
      | [] => [.text '\\']
      | d :: rest =>
        if isOctal d then
          let (digits, after) := octal 3 cs
          .text (byte (octalValue digits)) :: itemsFrom fuel after
        else match letter? d with
          | some e => .text e :: itemsFrom fuel rest
          | none => .text '\\' :: itemsFrom fuel cs
    else .text c :: itemsFrom fuel cs

def items (format : Bytes) : List Item := itemsFrom format.length format

/-! ### Printing -/

/-- A conversion with the numbers that its stars stand for. -/
structure Layout where
  flags : Bytes
  width : Nat
  precision : Option Nat
  letter : Char
deriving Repr, Inhabited

/-- Fills a text up to the width of its conversion. -/
def Layout.fill (l : Layout) (text : Bytes) : Bytes :=
  let missing := List.replicate (l.width - text.length) ' '
  if l.flags.contains '-' then text ++ missing else missing ++ text

/-- Fills a number up to the width of its conversion; zeros stand between the lead and the digits. -/
def Layout.fillNumber (l : Layout) (zeros : Bool) (lead digits : Bytes) : Bytes :=
  if zeros && l.flags.contains '0' && !l.flags.contains '-' then
    lead ++ List.replicate (l.width - lead.length - digits.length) '0' ++ digits
  else l.fill (lead ++ digits)

/-- What stands in front of a number that has a sign. -/
def Layout.signText (l : Layout) (negative : Bool) : Bytes :=
  if negative then ['-']
  else if l.flags.contains '+' then ['+']
  else if l.flags.contains ' ' then [' ']
  else []

/-- An integer under a conversion. -/
def Layout.integer (l : Layout) (n : Int) : Bytes :=
  let word := (n % (wordCount : Int)).toNat
  let (lead, digits) := match l.letter with
    | 'x' => (if l.flags.contains '#' && word ≠ 0 then ['0', 'x'] else [], Nat.toDigits 16 word)
    | 'X' => (if l.flags.contains '#' && word ≠ 0 then ['0', 'X'] else [],
        (Nat.toDigits 16 word).map Char.toUpper)
    | 'o' => (if l.flags.contains '#' && word ≠ 0 then ['0'] else [], Nat.toDigits 8 word)
    | 'u' => ([], Nat.toDigits 10 word)
    | _ => (l.signText (n < 0), Nat.toDigits 10 n.natAbs)
  let digits := if l.precision = some 0 && n = 0 then [] else digits
  let digits := List.replicate (l.precision.getD 0 - digits.length) '0' ++ digits
  l.fillNumber l.precision.isNone lead digits

/-- A number with a point: behind its digits, and in front of an exponent. -/
def withPoint (text : Bytes) : Bytes :=
  let digits := text.takeWhile (· ≠ 'e')
  if digits.contains '.' then text else digits ++ '.' :: text.drop digits.length

/-- How many hexadecimal digits stand behind the point of a float. -/
def hexPlaces : Nat := 13

/-- The digits of a float in base sixteen, with the power of two that they are to be multiplied by. -/
def hexadecimal (precision : Option Nat) (hasPoint : Bool) (mantissa : Nat) (exponent : Int) : Bytes :=
  let places := min (precision.getD hexPlaces) hexPlaces
  let units := Decimal.roundHalfEven mantissa (Nat.pow 16 (hexPlaces - places))
  let digits := Nat.toDigits 16 (units % Nat.pow 16 places)
  let digits := if places = 0 then [] else List.replicate (places - digits.length) '0' ++ digits
  let digits := match precision with
    | none => (digits.reverse.dropWhile (· = '0')).reverse
    | some n => digits ++ List.replicate (n - places) '0'
  let point := if hasPoint || !digits.isEmpty then ['.'] else []
  let power : Int := if mantissa = 0 then 0 else exponent + 4 * hexPlaces
  let sign := if power < 0 then '-' else '+'
  Bytes.decimal (units / Nat.pow 16 places) ++ point ++ digits ++ 'p' :: sign :: Bytes.decimal power.natAbs

/-- A float under a conversion. -/
def Layout.float (l : Layout) (x : Float) : Bytes :=
  let upper (text : Bytes) : Bytes := if l.letter.isUpper then text.map Char.toUpper else text
  let hasPoint := l.flags.contains '#'
  match Decimal.Binary.ofFloat x with
  | .nan => l.fill (upper "nan".toList)
  | .infinite negative => l.fill (l.signText negative ++ upper "inf".toList)
  | .finite negative mantissa exponent =>
    let num := mantissa * Nat.pow 2 exponent.toNat
    let den := Nat.pow 2 (-exponent).toNat
    let places := l.precision.getD 6
    let pointed (text : Bytes) : Bytes := if hasPoint then withPoint text else text
    let (lead, text) : Bytes × Bytes := match l.letter.toLower with
      | 'a' => (['0', 'x'], hexadecimal l.precision hasPoint mantissa exponent)
      | 'e' => ([], pointed (Decimal.scientific places num den))
      | 'g' =>
        let text := Decimal.general places num den
        ([], if hasPoint then withPoint text else Decimal.withoutTrailingZeros text)
      | _ => ([], pointed (Decimal.placePoint places (Decimal.roundHalfEven (num * Nat.pow 10 places) den)))
    l.fillNumber true (l.signText negative ++ upper lead) (upper text)

/-- What is wrong with a format. -/
inductive Mistake where
  /-- A percent sign stands at its end. -/
  | unfinished
  /-- There is no such conversion. -/
  | unknown (source : Bytes)
deriving DecidableEq, Repr, Inhabited

/-- What printing gives. -/
structure Printed where
  out : Bytes
  /-- The complaints, each with the length of the output in front of it. -/
  complaints : List (Nat × Complaint)
  /-- The arguments that are left. -/
  left : List Bytes
  /-- Whether all output ends here. -/
  stop : Bool
  mistake : Option Mistake
deriving Inhabited

/-- The number that a size stands for, whether it is negative, and the arguments that are left. -/
def Size.resolve (arguments : List Bytes) : Size → Nat × Bool × List Bytes
  | .number n => (n, false, arguments)
  | .argument =>
    let n := (quantity true (arguments.headD [])).1
    (n.natAbs, decide (n < 0), arguments.tail)

/-- The text of arguments under a conversion. -/
def convert (c : Conversion) (arguments : List Bytes) : Printed :=
  let (width, isLeft, arguments) := c.width.resolve arguments
  let (precision, arguments) := match c.precision with
    | none => (none, arguments)
    | some size =>
      let (n, isNegative, arguments) := size.resolve arguments
      (if isNegative then none else some n, arguments)
  let l : Layout := ⟨if isLeft then '-' :: c.flags else c.flags, width, precision, c.letter⟩
  let text := arguments.headD []
  let printed (out : Bytes) : Printed := ⟨out, [], arguments.tail, false, none⟩
  if ['d', 'i', 'o', 'u', 'x', 'X'].contains c.letter then
    let (n, complaints) := quantity (c.letter = 'd' || c.letter = 'i') text
    { printed (l.integer n) with complaints := complaints.map (0, ·) }
  else if ['a', 'A', 'e', 'E', 'f', 'F', 'g', 'G'].contains c.letter then
    let (x, complaints) := fraction text
    { printed (l.float x) with complaints := complaints.map (0, ·) }
  else match c.letter with
    | 's' => printed (l.fill (precision.elim text text.take))
    | 'b' =>
      let (out, stop) := argument (text.length + 1) text
      { printed (l.fill (precision.elim out out.take)) with stop }
    | 'c' => printed (l.fill [text.headD '\x00'])
    | _ => { printed [] with stop := true, mistake := some (.unknown c.source) }

/-- What is printed first, and what is printed behind it. -/
def Printed.append (first rest : Printed) : Printed :=
  { rest with
    out := first.out ++ rest.out
    complaints := first.complaints ++ rest.complaints.map fun (n, c) => (first.out.length + n, c) }

/-- One pass over a format. -/
def pass : List Item → List Bytes → Printed
  | [], arguments => ⟨[], [], arguments, false, none⟩
  | .text c :: rest, arguments => Printed.append ⟨[c], [], arguments, false, none⟩ (pass rest arguments)
  | .unfinished :: _, arguments => ⟨[], [], arguments, true, some .unfinished⟩
  | .conversion c :: rest, arguments =>
    let first := convert c arguments
    if first.stop then first else first.append (pass rest first.left)

/-- Goes over a format as long as it takes arguments; `fuel` bounds the number of passes. -/
def passes (format : List Item) : (fuel : Nat) → List Bytes → Printed
  | 0, arguments => ⟨[], [], arguments, false, none⟩
  | fuel + 1, arguments =>
    let p := pass format arguments
    if p.stop || p.left.isEmpty || p.left.length = arguments.length then p
    else p.append (passes format fuel p.left)

/-- What a command prints that prints arguments under a format. -/
def printf (format : Bytes) (arguments : List Bytes) : Printed :=
  passes (items format) (arguments.length + 1) arguments

end Stopwatch.Shell.Format
