import Stopwatch.Shell.Pattern
import Stopwatch.System.Program

/-!
# Fields

The expansion of a word gives atoms, and these make up fields: a blank that comes from an unquoted
expansion separates two fields, and so does the border between two parameters; quotes make a field even if
there is nothing between them. A field with an unquoted pattern stands for the paths that fit it, if there
are any.

- `Atom.fieldsFrom`: the fields of atoms;
- `Field.matching`: the paths that a pattern fits;
- `Field.texts`: the texts that atoms give.
-/

namespace Stopwatch.Shell

open Pattern (Mark)
open Stopwatch.System (View)

/-- What the expansion of a word consists of. -/
inductive Atom where
  /-- A character that stays in its field. -/
  | fixed (mark : Mark)
  /-- The start of the result of an expansion, or of all parameters in quotes, which borders alone separate. -/
  | result (isWhole : Bool)
  /-- A character of an unquoted result. -/
  | loose (c : Char)
  /-- The border between two parameters. -/
  | border
  /-- Quotes, whatever is between them. -/
  | quotes
deriving DecidableEq, Repr

namespace Atom

/-- The marks of a word that is not split. -/
def marks (atoms : List Atom) : List Mark :=
  atoms.filterMap fun
    | .fixed m => some m
    | .loose c => some ⟨c, false⟩
    | .result _ => none
    | .border => none
    | .quotes => none

/-- The text of a word that is not split. -/
def text (atoms : List Atom) : Bytes := (marks atoms).map Mark.char

/-- A quoted text. -/
def quoted (text : Bytes) : List Atom := .quotes :: text.map fun c => .fixed ⟨c, true⟩

/-- The result of an expansion. -/
def ofExpansion (isQuoted : Bool) (text : Bytes) : List Atom :=
  if isQuoted then quoted text
  else .result false :: text.map fun c => if c = Pattern.borderMark then .border else .loose c

/-- All parameters in quotes, if there are any. -/
def ofParameters (text : Bytes) : List Atom :=
  .result true :: text.map fun c => if c = Pattern.borderMark then .border else .fixed ⟨c, true⟩

/-- The atoms of a word that stands for a value: unquoted characters are results, and can separate fields. -/
def loosenFrom (isInResult : Bool) : List Atom → List Atom
  | [] => []
  | .fixed m :: rest =>
    if m.quoted then .fixed m :: loosenFrom false rest
    else if isInResult then .loose m.char :: loosenFrom true rest
    else .result false :: .loose m.char :: loosenFrom true rest
  | other :: rest => other :: loosenFrom false rest

/-- Where a splitting is. -/
inductive Place where
  /-- Inside of a field, of which these marks have been read, last one first. -/
  | inside (marks : List Mark)
  /-- Behind the separators that ended a field, to which another one than a blank can belong or not. -/
  | behind (isOpen : Bool)
  /-- In front of a field. -/
  | before
deriving DecidableEq, Repr

namespace Place

/-- The marks of the field that a splitting is in, last one first. -/
def marks : Place → List Mark
  | inside ms => ms
  | _ => []

/-- The field that ends here, if there is one. -/
def ended : Place → List (List Mark)
  | inside ms => [ms.reverse]
  | _ => []

/-- The place at the start of a result, to which no separators of another one belong. -/
def entered : Place → Place
  | behind _ => before
  | place => place

end Place

/-- Whether a character separates fields together with the blanks around it. -/
def isBlank (c : Char) : Bool := c = ' ' || c = '\t' || c = '\n'

/-- The field that ends at a separator, if one does, and the place behind it. Blanks that separate come in any number;
any other separator ends a field of its own, but takes the blanks around it with it. Right behind quoted parameters
every separator ends a field of its own. -/
def separate (isAfterWhole isBlank : Bool) (place : Place) : List (List Mark) × Place :=
  if isAfterWhole then ([place.marks.reverse], .before)
  else
    match place with
    | .inside ms => ([ms.reverse], .behind isBlank)
    | .behind isOpen =>
      if isBlank then ([], .behind isOpen)
      else if isOpen then ([], .behind false)
      else ([[]], .behind false)
    | .before => if isBlank then ([], .before) else ([[]], .behind false)

/-- Splits atoms into fields. It is known whether the last result was all parameters in quotes, and whether the
one before it was. -/
def fieldsFrom (separators : Bytes) (place : Place) (isWhole isAfterWhole : Bool) : List Atom → List (List Mark)
  | [] => if isWhole then [place.marks.reverse] else place.ended
  | .fixed m :: rest => fieldsFrom separators (.inside (m :: place.marks)) isWhole isAfterWhole rest
  | .quotes :: rest => fieldsFrom separators (.inside place.marks) isWhole isAfterWhole rest
  | .result isNextWhole :: rest => fieldsFrom separators place.entered isNextWhole isWhole rest
  | .border :: rest =>
    if isWhole then place.marks.reverse :: fieldsFrom separators .before isWhole isAfterWhole rest
    else
      let (fields, place) := separate isAfterWhole true place
      fields ++ fieldsFrom separators place isWhole isAfterWhole rest
  | .loose c :: rest =>
    if !separators.contains c then
      fieldsFrom separators (.inside (⟨c, false⟩ :: place.marks)) isWhole isAfterWhole rest
    else
      let (fields, place) := separate isAfterWhole (isBlank c) place
      fields ++ fieldsFrom separators place isWhole isAfterWhole rest

end Atom

namespace Field

/-! ### Paths -/

/-- The names in a directory, with those for itself and for the one above. -/
def namesIn (v : View) (path : Bytes) : List Bytes :=
  match v.find? (if path.isEmpty then "." else path.toText) with
  | some (location, .directory) =>
    ['.'] :: ['.', '.'] :: (v.disk.children location).map fun c => Bytes.ofString c.1
  | _ => []

/-- Whether something stands at a path; a link stands for itself. -/
def isThere (v : View) (path : Bytes) : Bool :=
  match v.follow path.toText .name with
  | .ok (.found _ _) => true
  | _ => false

/-- The part of a pattern in front of the next slash, and the rest from it on. A backslash keeps the slash
behind it apart from neither. -/
def splitSlash : Bytes → Bytes × Bytes
  | [] => ([], [])
  | '/' :: rest => ([], '/' :: rest)
  | '\\' :: '/' :: rest => ([], '/' :: rest)
  | '\\' :: c :: rest =>
    let (part, rest) := splitSlash rest
    ('\\' :: c :: part, rest)
  | c :: rest =>
    let (part, rest) := splitSlash rest
    (c :: part, rest)

/-- A part of a pattern without its backslashes. -/
def plain : Bytes → Bytes
  | '\\' :: c :: rest => c :: plain rest
  | c :: rest => c :: plain rest
  | [] => []

/-- The paths that a pattern fits behind the start of a path; `fuel` bounds the number of names. -/
def matchingFrom (v : View) : (fuel : Nat) → (start : Bytes) → (pattern : Bytes) → List Bytes
  | 0, _, _ => []
  | _, start, [] => if isThere v start then [start] else []
  | fuel + 1, start, pattern =>
    let (part, rest) := splitSlash pattern
    let items := Pattern.itemsOf part
    if !items.any Pattern.Item.isOpen then
      match rest with
      | [] => matchingFrom v fuel (start ++ plain part) []
      | _ :: after => matchingFrom v fuel (start ++ plain part ++ ['/']) after
    else
      let names := (namesIn v start).filter fun name =>
        Pattern.fits items name && (name.head? ≠ some '.' || part.head? = some '.' || ['\\', '.'].isPrefixOf part)
      match rest with
      | [] => names.map (start ++ ·)
      | _ :: after =>
        names.flatMap fun name => matchingFrom v fuel (start ++ name ++ ['/']) (after.dropWhile (· = '/'))

/-- The paths that a pattern fits, in order. -/
def matching (v : View) (pattern : List Mark) : List Bytes :=
  let source := Pattern.source pattern
  (matchingFrom v (source.length + 2) [] source).mergeSort Bytes.inOrder

/-- The texts that a field stands for. -/
def textsOf (v : View) (isLiteral : Bool) (field : List Mark) : List Bytes :=
  let plain := field.map Mark.char
  if Pattern.isActive field && !isLiteral then
    match matching v field with
    | [] => [plain]
    | paths => paths
  else [plain]

/-- The texts that the expansion of a word gives. -/
def texts (v : View) (separators : Bytes) (isLiteral : Bool) (atoms : List Atom) : List Bytes :=
  (Atom.fieldsFrom separators .before false false atoms).flatMap (textsOf v isLiteral)

end Field

end Stopwatch.Shell
