import Stopwatch.Bytes

/-!
# Tildes

A tilde stands for the home of a user, at the start of a word, and in an assignment also at the start of the value
and behind every colon.

- `Tilde.parts`: the parts of a text, some of which are homes;
- `Tilde.home?`: the home of a user.
-/

namespace Stopwatch.Shell.Tilde

/-- Where tildes have a meaning in a word. -/
inductive Mode where
  | nowhere
  /-- At its start. -/
  | word
  /-- At its start, and behind colons. -/
  | value
  /-- As in a value, but only behind an equals sign. -/
  | argument
deriving DecidableEq, Repr, Inhabited

/-- A part of a text. -/
inductive Part where
  | text (text : Bytes)
  /-- The home of a user, or of whoever runs the shell if there is no name. -/
  | home (user : Bytes)
deriving DecidableEq, Repr, Inhabited

/-- The parts of a text between colons. A name goes up to a slash; it has to end where the word ends, or in this
text. -/
def partsOf (isOpen isLast : Bool) (text : Bytes) : List Part :=
  match isOpen, text with
  | true, '~' :: rest =>
    let user := rest.takeWhile (· ≠ '/')
    let after := rest.drop user.length
    if after.isEmpty && !isLast then [.text text] else [.home user, .text after]
  | _, _ => [.text text]

/-- The parts of the texts between colons. -/
def valueParts (isOpen isLast : Bool) : List Bytes → List Part
  | [] => []
  | [only] => partsOf isOpen isLast only
  | first :: rest => partsOf isOpen true first ++ .text [':'] :: valueParts true isLast rest

/-- The parts of an unquoted text, which stands at the start of a word or not, and at its end or not. -/
def parts (mode : Mode) (isFirst isLast : Bool) (text : Bytes) : List Part :=
  match mode with
  | .nowhere => [.text text]
  | .word => partsOf isFirst isLast text
  | .value => valueParts isFirst isLast (Bytes.split ':' text)
  | .argument =>
    let name := text.takeWhile (· ≠ '=')
    match text.drop name.length with
    | [] => [.text text]
    | _ :: value => .text (name ++ ['=']) :: valueParts true isLast (Bytes.split ':' value)

/-- The home of a user in a list of users. -/
def home? (users user : Bytes) : Option Bytes :=
  (Bytes.lines users).findSome? fun line =>
    let fields := Bytes.split ':' (Bytes.bare line)
    if fields.head? = some user then fields[5]? else none

end Stopwatch.Shell.Tilde
