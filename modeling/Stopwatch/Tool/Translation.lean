import Stopwatch.Shell.Format
import Stopwatch.Tool.Basic

/-!
# Translating characters

The tool that replaces, removes or squeezes characters. Sets of characters are written with escapes, ranges,
named classes and repetitions.

- `Item.readList`: the items of a set as it is written;
- `Translation.of`: what some arguments ask for;
- `Translation.step`: what becomes of a character.
-/

namespace Stopwatch.Tool

open Shell

/-! ### Sets as they are written -/

/-- A character of a set as it is written, and whether it was written with a backslash. -/
structure Glyph where
  char : Char
  isEscaped : Bool
deriving DecidableEq, Repr, Inhabited

namespace Glyph

/-- Whether a character stands for itself as a mark. -/
def isMark (mark : Char) (g : Glyph) : Bool := !g.isEscaped && g.char = mark

/-- The number that stands behind a backslash, in one to three octal digits as long as it is a byte. -/
def octal (cs : Bytes) : Char × Bytes :=
  let (digits, after) := Format.octal 3 cs
  if Format.octalValue digits < 256 then (Format.byte (Format.octalValue digits), after)
  else
    let (digits, after) := Format.octal 2 cs
    (Format.byte (Format.octalValue digits), after)

/-- The characters of a set as it is written; `fuel` bounds their number. -/
def readFrom : (fuel : Nat) → Bytes → List Glyph
  | 0, _ => []
  | fuel + 1, cs =>
    match cs with
    | '\\' :: c :: rest =>
      if Format.isOctal c then
        let (value, after) := octal (c :: rest)
        ⟨value, true⟩ :: readFrom fuel after
      else ⟨if c = 'e' then c else (Format.letter? c).getD c, true⟩ :: readFrom fuel rest
    | c :: rest => ⟨c, false⟩ :: readFrom fuel rest
    | [] => []

/-- The characters of a set as it is written. -/
def readList (cs : Bytes) : List Glyph := readFrom cs.length cs

end Glyph

/-! ### Items -/

/-- The members of a named class. -/
def classMembers? (name : Bytes) : Option Bytes :=
  let all := (List.range 128).map Char.ofNat
  match String.ofList name with
  | "upper" => all.filter Char.isUpper
  | "lower" => all.filter Char.isLower
  | "digit" => all.filter Char.isDigit
  | "alpha" => all.filter Char.isAlpha
  | "alnum" => all.filter Char.isAlphanum
  | "xdigit" => all.filter fun c => c.isDigit || ('a' ≤ c.toLower && c.toLower ≤ 'f')
  | "space" => ['\t', '\n', '\x0b', '\x0c', '\r', ' ']
  | "blank" => ['\t', ' ']
  | "punct" => all.filter fun c => 33 ≤ c.toNat && c.toNat ≤ 126 && !c.isAlphanum
  | "print" => all.filter fun c => 32 ≤ c.toNat && c.toNat ≤ 126
  | "graph" => all.filter fun c => 33 ≤ c.toNat && c.toNat ≤ 126
  | "cntrl" => all.filter fun c => c.toNat < 32 || c.toNat = 127
  | _ => none

/-- A part of a set. -/
inductive Item where
  | chars (members : Bytes)
  /-- A named class. -/
  | kind (name : Bytes) (members : Bytes)
  /-- The characters that are equal to one. -/
  | equals (c : Char)
  /-- As many of a character as are missing. -/
  | fill (c : Char)
deriving DecidableEq, Repr, Inhabited

namespace Item

/-- The members of an item, of which `missing` fill a gap. -/
def members (missing : Nat) : Item → Bytes
  | chars members => members
  | kind _ members => members
  | equals c => [c]
  | fill c => List.replicate missing c

def isFill : Item → Bool
  | fill _ => true
  | _ => false

/-- Whether an item is the class of small or of great letters. -/
def isCase : Item → Bool
  | kind name _ => name = "upper".toList || name = "lower".toList
  | _ => false

/-- Whether an item is a class of something else. -/
def isOtherKind (item : Item) : Bool :=
  match item with
  | kind _ _ => !item.isCase
  | _ => false

/-- The text in front of a mark that stands before a closing bracket, and what comes behind that. -/
def untilBracket (mark : Char) : List Glyph → Option (Bytes × List Glyph)
  | a :: b :: rest =>
    if a.isMark mark && b.isMark ']' then some ([], rest)
    else (untilBracket mark (b :: rest)).map fun (text, rest) => (a.char :: text, rest)
  | _ => none

/-- Reads a repetition behind its opening bracket: a character, a star, perhaps a number, and a bracket. -/
def repetition? : List Glyph → Option (Except Bytes (Item × List Glyph))
  | c :: star :: rest =>
    let digits := rest.takeWhile fun g => !g.isMark ']'
    match star.isMark '*', rest.drop digits.length with
    | true, _ :: after =>
      let text := digits.map Glyph.char
      let isNumber := text.all Char.isDigit && (text.head? ≠ some '0' || text.all Format.isOctal)
      let count := Nat.ofDigitChars (if text.head? = some '0' then 8 else 10) text 0
      if !isNumber then
        some (.error (Bytes.ofString "invalid repeat count " ++ quote text ++ Bytes.ofString " in [c*n] construct"))
      else if count = 0 then some (.ok (.fill c.char, after))
      else some (.ok (.chars (List.replicate count c.char), after))
    | _, _ => none
  | _ => none

/-- Whether a star, digits and a closing bracket come first. -/
def isStarred : List Glyph → Bool
  | star :: rest => star.isMark '*' && (rest.dropWhile fun g => !g.isEscaped && g.char.isDigit).head?.any (·.isMark ']')
  | [] => false

/-- Reads a class behind its opening bracket. -/
def class? : List Glyph → Option (Except Bytes (Item × List Glyph))
  | mark :: rest =>
    if !(mark.isMark ':' || mark.isMark '=') then none
    else match untilBracket mark.char rest with
      | none => none
      | some ([], _) =>
        some (.error (Bytes.ofString (if mark.char = ':' then "missing character class name '[::]'"
          else "missing equivalence class character '[==]'")))
      | some (name, after) =>
        if mark.char = ':' then
          match classMembers? name with
          | some members => some (.ok (.kind name members, after))
          | none =>
            if isStarred rest then none
            else some (.error (Bytes.ofString "invalid character class " ++ quote name))
        else match name with
          | [c] => some (.ok (.equals c, after))
          | _ =>
            if isStarred rest then none
            else some (.error (name ++ Bytes.ofString ": equivalence class operand must be a single character"))
  | [] => none

/-- Reads what an opening bracket may start, if it starts anything. -/
def bracketed? (gs : List Glyph) : Option (Except Bytes (Item × List Glyph)) :=
  (class? gs).orElse fun _ => repetition? gs

/-- The characters from a first to a last one. -/
def range (first last : Char) : Except Bytes Item :=
  if last.toNat < first.toNat then
    .error (Bytes.ofString "range-endpoints of " ++ quote [first, '-', last] ++
      Bytes.ofString " are in reverse collating sequence order")
  else .ok (.chars (((List.range (last.toNat + 1)).drop first.toNat).map Char.ofNat))

/-- Reads the items of a set; `fuel` bounds their number. Ranges and brackets take at least three characters. -/
def readFrom : (fuel : Nat) → List Glyph → Except Bytes (List Item)
  | 0, _ => .ok []
  | fuel + 1, a :: b :: c :: rest => do
    match if a.isMark '[' then bracketed? (b :: c :: rest) else none with
    | some outcome =>
      let (item, after) ← outcome
      return item :: (← readFrom fuel after)
    | none =>
      if b.isMark '-' then return (← range a.char c.char) :: (← readFrom fuel rest)
      else return .chars [a.char] :: (← readFrom fuel (b :: c :: rest))
  | _, gs => .ok [.chars (gs.map Glyph.char)]

/-- Reads the items of a set. -/
def readList (text : Bytes) : Except Bytes (List Item) :=
  let gs := Glyph.readList text
  readFrom (gs.length + 1) gs

/-- The members of a set without those that fill a gap. -/
def given (items : List Item) : Bytes := items.flatMap (·.members 0)

/-- The places at which classes of letters start. -/
def casePlaces (items : List Item) : List Nat :=
  (items.foldl (fun ((places, n) : List Nat × Nat) item =>
    (if item.isCase then n :: places else places, n + (item.members 0).length)) ([], 0)).1

end Item

/-! ### Translations -/

/-- What is done to characters. -/
structure Translation where
  /-- The characters that are removed. -/
  removed : Bytes
  /-- What other characters become. -/
  table : List (Char × Char)
  /-- The characters that do not repeat. -/
  squeezed : Bytes
deriving Inhabited

namespace Translation

/-- What becomes of a character behind another one. -/
def step (t : Translation) (last : Option Char) (c : Char) : Option Char :=
  if t.removed.contains c then none
  else
    let c := (t.table.lookup c).getD c
    if last = some c && t.squeezed.contains c then none else some c

/-- What becomes of a text behind a character, and its last character. -/
def apply (t : Translation) (last : Option Char) (text : Bytes) : Bytes × Option Char :=
  let (out, last) := text.foldl (fun ((out, last) : Bytes × Option Char) c =>
    match t.step last c with
    | some c => (c :: out, some c)
    | none => (out, last)) ([], last)
  (out.reverse, last)

/-- All characters that are not in a set. -/
def complement (set : Bytes) : Bytes := ((List.range 256).map Char.ofNat).filter (!set.contains ·)

/-- What is said about the number of operands, if it is wrong. -/
def misuse? (removes squeezes : Bool) (operands : List Bytes) : Option Bytes :=
  match operands with
  | [] => some (Bytes.ofString "missing operand")
  | [first] =>
    if removes = squeezes then
      some (Bytes.ofString "missing operand after " ++ quote first ++ Bytes.ofString
        (if squeezes then "\nTwo strings must be given when both deleting and squeezing repeats."
          else "\nTwo strings must be given when translating."))
    else none
  | [_, second] =>
    if removes && !squeezes then
      some (Bytes.ofString "extra operand " ++ quote second ++
        Bytes.ofString "\nOnly one string may be given when deleting without squeezing repeats.")
    else none
  | _ :: second :: third :: _ =>
    some (Bytes.ofString "extra operand " ++ quote (if removes && !squeezes then second else third))

/-- What is wrong with the items of the sets of a translation, if something is. -/
def defect? (isInverted isCut : Bool) (source target : List Item) (size : Nat) : Option String :=
  let given := (Item.given target).length
  let isFilled := target.any Item.isFill
  if target.any fun | .equals _ => true | _ => false then
    some "[=c=] expressions may not appear in string2 when translating"
  else if target.any Item.isOtherKind then
    some ("when translating, the only character classes that may appear in\n" ++
      "string2 are 'upper' and 'lower'")
  else if !isInverted && (Item.casePlaces target).any fun n => !(Item.casePlaces source).contains n then
    some "misaligned [:upper:] and/or [:lower:] construct"
  else if given < size && !isCut && !isFilled && given = 0 then
    some "when not truncating set1, string2 must be non-empty"
  else if given < size && !isCut && !isFilled && target.getLast?.any Item.isCase then
    some ("when translating with string1 longer than string2,\n" ++
      "the latter string must not end with a character class")
  else if isInverted && (source.any fun | .kind _ _ => true | _ => false) &&
      !((given = size || isFilled || (given < size && !isCut)) && (Item.given target).eraseDups.length ≤ 1) then
    some ("when translating with complemented character classes,\n" ++
      "string2 must map all characters in the domain to one")
  else none

/-- The members of the second set, as many as those of the first one if that is not cut. -/
def targets (isCut : Bool) (size : Nat) (second : List Item) : Bytes :=
  let members := second.flatMap (·.members (size - (Item.given second).length))
  if isCut then members
  else members ++ List.replicate (size - members.length) (members.getLast?.getD ' ')

/-- What some arguments ask for, or what is wrong with the sets. -/
def of (call : Call) : Except Bytes Translation := do
  let removes := call.has 'd'
  let squeezes := call.has 's'
  let isInverted := call.has 'c' || call.has 'C'
  let first ← Item.readList (call.operands.headD [])
  let second ← (call.operands[1]?).mapM Item.readList
  if first.any Item.isFill then
    throw (Bytes.ofString "the [c*] repeat construct may not appear in string1")
  let given := Item.given first
  let set := if isInverted then complement given else given
  match second with
  | none => return ⟨if removes then set else [], [], if squeezes then set else []⟩
  | some second =>
    if 1 < (second.filter Item.isFill).length then
      throw (Bytes.ofString "only one [c*] repeat construct may appear in string2")
    if removes then
      if second.any Item.isFill then
        throw (Bytes.ofString "the [c*] construct may appear in string2 only when translating")
      return ⟨set, [], if squeezes then Item.given second else []⟩
    else
      let isCut := call.has 't'
      match defect? isInverted isCut first second set.length with
      | some text => throw (Bytes.ofString text)
      | none =>
        let targets := targets isCut set.length second
        return ⟨[], (set.zip targets).reverse, if squeezes then targets else []⟩

end Translation

/-- Replaces, removes or squeezes characters. -/
def tr : Errand :=
  withOrderedCall ⟨"cCdst", "", [("complement", 'c'), ("delete", 'd'), ("squeeze-repeats", 's'),
      ("truncate-set1", 't')]⟩ 1 fun call => do
    match Translation.misuse? (call.has 'd') (call.has 's') call.operands with
    | some text => misuse text 1
    | none =>
      match Translation.of call with
      | .error text =>
        blame text
        return 1
      | .ok t =>
        let (_, e) ← overPortions 0 (fun last text => do
          let (out, last) := t.apply last text
          put out
          return last) none
        match e with
        | none => return 0
        | some e =>
          blame (Bytes.ofString "read error: " ++ words e)
          return 1

end Stopwatch.Tool
