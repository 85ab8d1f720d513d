import Stopwatch.Shell.Numeral
import Stopwatch.Tool.Basic

/-!
# The order of lines

The tools that put lines in order, and that drop lines which repeat the one before.

- `Key.read`: the part of a line that an option such as `2,3n` names;
- `Key.compare`: how two lines stand to each other by such a part;
- `sort`, `uniq`: the tools.
-/

namespace Stopwatch.Tool



/-! ### Numbers -/

/-- Whether a character separates the fields of a line if nothing else does. -/
def isGap (c : Char) : Bool := c = ' ' || c = '\t'

/-- The number that a text starts with, as units of which so many make a whole. -/
def leadingNumber (text : Bytes) : Int × Nat :=
  let text := text.dropWhile isGap
  let isNegative := text.head? = some '-'
  let text := if isNegative then text.tail else text
  let whole := text.takeWhile Char.isDigit
  let rest := text.drop whole.length
  let places := if rest.head? = some '.' then rest.tail.takeWhile Char.isDigit else []
  let n : Int := Nat.ofDigitChars 10 (whole ++ places) 0
  (if isNegative then -n else n, Nat.pow 10 places.length)

/-- How two numbers stand to each other. -/
def compareNumbers (a b : Int × Nat) : Ordering := compare (a.1 * b.2) (b.1 * a.2)

/-- The rank of the letter behind a number that stands for a power of a thousand. -/
def scaleOf (text : Bytes) : Int :=
  let text := text.dropWhile isGap
  let isNegative := text.head? = some '-'
  let rest := (if isNegative then text.tail else text).dropWhile fun c => c.isDigit || c = '.'
  let rank := "KMGTPEZY".toList.idxOf (rest.headD ' ').toUpper
  let rank : Int := if rank = 8 then 0 else rank + 1
  if isNegative then -rank else rank

/-- How two texts stand to each other by their bytes. -/
def compareBytes : Bytes → Bytes → Ordering
  | [], [] => .eq
  | [], _ => .lt
  | _, [] => .gt
  | a :: as, b :: bs => (compare a.toNat b.toNat).then (compareBytes as bs)

/-- The parts of a text that are numbers, and those between them. -/
def versionParts : (fuel : Nat) → Bytes → List (Bytes × Nat)
  | 0, _ => []
  | fuel + 1, text =>
    if text.isEmpty then []
    else
      let word := text.takeWhile fun c => !c.isDigit
      let digits := (text.drop word.length).takeWhile Char.isDigit
      (word, Nat.ofDigitChars 10 digits 0) :: versionParts fuel (text.drop (word.length + digits.length))

/-- How two texts stand to each other if the numbers in them count as numbers. -/
def compareVersions (a b : Bytes) : Ordering :=
  let rec go : List (Bytes × Nat) → List (Bytes × Nat) → Ordering
    | [], [] => .eq
    | [], _ => .lt
    | _, [] => .gt
    | (v, m) :: as, (w, n) :: bs => ((compareBytes v w).then (compare m n)).then (go as bs)
  go (versionParts a.length a) (versionParts b.length b)

/-! ### Keys -/

/-- A place in a line: so many fields, and so many characters. -/
structure Spot where
  fields : Nat
  characters : Nat
  /-- Whether blanks are skipped before the characters are counted. -/
  skipsBlanks : Bool
deriving DecidableEq, Repr, Inhabited

/-- A part of a line by which it is put in order. -/
structure Key where
  start : Spot
  /-- Where the part ends; without it, at the end of the line. -/
  stop : Option Spot
  /-- How the part is compared. -/
  letters : Bytes
deriving DecidableEq, Repr, Inhabited

namespace Key

/-- The whole line. -/
def line (letters : Bytes) : Key := ⟨⟨0, 0, letters.contains 'b'⟩, none, letters⟩

/-- A number in front of a text, and the rest. -/
def splitNumber (text : Bytes) : Option Nat × Bytes :=
  let digits := text.takeWhile Char.isDigit
  (Bytes.number? digits, text.drop digits.length)

/-- One of the two places of a key, with the letters behind it and the rest. -/
def spot (text : Bytes) : Except Bytes (Nat × Nat × Bytes × Bytes) :=
  match splitNumber text with
  | (none, _) =>
    .error (Bytes.ofString "invalid number at field start: invalid count at start of " ++ quote text)
  | (some 0, _) => .error (Bytes.ofString "field number is zero: invalid field specification " ++ quote text)
  | (some field, rest) =>
    let (character, rest) := match rest with
      | '.' :: rest => splitNumber rest
      | rest => (none, rest)
    let letters := rest.takeWhile Char.isAlpha
    .ok (field, character.getD 0, letters, rest.drop letters.length)

/-- Reads a key; it is compared as some letters say unless it has letters of its own. -/
def read (usual text : Bytes) : Except Bytes Key := do
  let (field, character, letters, rest) ← spot text
  let start (own : Bytes) : Spot := ⟨field - 1, character - 1, own.contains 'b'⟩
  match rest with
  | ',' :: rest => do
    let (lastField, lastCharacter, lastLetters, _) ← spot rest
    let all := letters ++ lastLetters
    let own := if all.isEmpty then usual else all
    return ⟨start (if all.isEmpty then usual else letters),
      some ⟨lastField, lastCharacter, (if all.isEmpty then usual else lastLetters).contains 'b'⟩, own⟩
  | [] =>
    let own := if letters.isEmpty then usual else letters
    return ⟨start own, none, own⟩
  | _ => .error (Bytes.ofString "stray character in field spec: invalid field specification " ++ quote text)

/-- How many bytes some fields take, with the separators behind all but the last one; that behind the last one
belongs to them if `isPast`. -/
def fieldsLength (separator : Option Char) (isPast : Bool) : (fields : Nat) → Bytes → Nat
  | 0, _ => 0
  | fields + 1, text =>
    match separator with
    | some c =>
      let field := text.takeWhile (· ≠ c)
      let gap := if field.length < text.length && (isPast || 0 < fields) then 1 else 0
      field.length + gap + fieldsLength separator isPast fields (text.drop (field.length + gap))
    | none =>
      let blanks := text.takeWhile isGap
      let word := (text.drop blanks.length).takeWhile (!isGap ·)
      let length := blanks.length + word.length
      length + fieldsLength separator isPast fields (text.drop length)

/-- The part of a line that a key names. -/
def part (key : Key) (separator : Option Char) (line : Bytes) : Bytes :=
  let skip (spot : Spot) (from' : Nat) : Nat :=
    let blanks := if spot.skipsBlanks then ((line.drop from').takeWhile isGap).length else 0
    min line.length (from' + blanks + spot.characters)
  let start := skip key.start (fieldsLength separator true key.start.fields line)
  let stop := match key.stop with
    | none => line.length
    | some spot =>
      if spot.characters = 0 then fieldsLength separator false spot.fields line
      else skip spot (fieldsLength separator true (spot.fields - 1) line)
  (line.take stop).drop start

/-- A text as it is compared: without what does not count. -/
def folded (letters text : Bytes) : Bytes :=
  let text := if letters.contains 'd' then text.filter fun c => c.isAlphanum || isGap c else text
  let text := if letters.contains 'i' then text.filter fun c => ' ' ≤ c && c ≤ '~' else text
  if letters.contains 'f' then text.map Char.toUpper else text

/-- How two parts of lines stand to each other. -/
def compareParts (letters a b : Bytes) : Ordering :=
  if letters.contains 'n' then compareNumbers (leadingNumber a) (leadingNumber b)
  else if letters.contains 'h' then
    (Ord.compare (scaleOf a) (scaleOf b)).then (compareNumbers (leadingNumber a) (leadingNumber b))
  else if letters.contains 'g' then
    let x := (Shell.Numeral.fraction a).1
    let y := (Shell.Numeral.fraction b).1
    if x < y then .lt else if y < x then .gt else .eq
  else if letters.contains 'V' then compareVersions (folded letters a) (folded letters b)
  else compareBytes (folded letters a) (folded letters b)

/-- How two lines stand to each other by a key. -/
def compare (separator : Option Char) (key : Key) (a b : Bytes) : Ordering :=
  let found := compareParts key.letters (key.part separator a) (key.part separator b)
  if key.letters.contains 'r' then found.swap else found

end Key

/-! ### Putting in order -/

/-- How lines are put in order. -/
structure Sorting where
  keys : List Key
  separator : Option Char
  /-- Whether lines that agree in all keys are compared as a whole. -/
  isThorough : Bool
  /-- Whether such lines are put in the opposite order. -/
  isReversed : Bool

namespace Sorting

/-- How two lines stand to each other by the keys. -/
def byKeys (s : Sorting) (a b : Bytes) : Ordering :=
  s.keys.foldl (fun found key => found.then (key.compare s.separator a b)) .eq

/-- How two lines stand to each other. -/
def compare (s : Sorting) (a b : Bytes) : Ordering :=
  let last := if s.isReversed then compareBytes b a else compareBytes a b
  (s.byKeys a b).then (if s.isThorough then last else .eq)

end Sorting

/-- The letters of options that say how lines are compared. -/
def orderLetters : Bytes := "bdfghinrV".toList

/-- The order that the options of a call ask for. -/
def sortingOf (call : Call) : Except Bytes Sorting := do
  let usual := orderLetters.filter call.has
  let separator ← match call.value? 't' with
    | none => pure none
    | some [c] => pure (some c)
    | some ['\\', '0'] => pure (some '\x00')
    | some [] => throw (Bytes.ofString "empty tab")
    | some text => throw (Bytes.ofString "multi-character tab " ++ quote text)
  let keys ← (call.options.filter (·.1 = 'k')).mapM fun o => Key.read usual o.2
  return ⟨if keys.isEmpty then [Key.line usual] else keys, separator, !(call.has 's' || call.has 'u'), call.has 'r'⟩

/-- What is at the end of each line. -/
def lineEnd (call : Call) : Char := if call.has 'z' then '\x00' else '\n'

/-- The lines of a text without the ends of lines. -/
def linesUpTo (mark : Char) (text : Bytes) : List Bytes :=
  let parts := Bytes.split mark text
  if parts.getLast? = some [] then parts.dropLast else parts

/-- The lines of the operands without their ends; nothing if one of them cannot be read. -/
def collectLines (mark : Char) (sayings : Sayings) (operands : List Bytes) : Work (Option (List Bytes)) := do
  let mut texts := []
  for operand in operands do
    match ← openOperand operand with
    | .error e =>
      blame (sayings.unopened operand e)
      return none
    | .ok descriptor =>
      let (text, e) ← takeAll descriptor
      closeOperand descriptor
      if let some e := e then
        blame (sayings.unread operand e)
        return none
      texts := linesUpTo mark text :: texts
  return some texts.reverse.flatten

/-- The first line that is not in order, with its number. -/
def disorder? (s : Sorting) (isStrict : Bool) (number : Nat) : List Bytes → Option (Nat × Bytes)
  | a :: b :: rest =>
    let found := s.compare a b
    if found = .gt || (isStrict && found = .eq) then some (number + 1, b)
    else disorder? s isStrict (number + 1) (b :: rest)
  | _ => none

/-- Puts lines in order. -/
def sort : Errand :=
  withCall ⟨"bcCdfghimnrsuVz", "kotTS", [("numeric-sort", 'n'), ("reverse", 'r'), ("unique", 'u'), ("key", 'k'),
      ("check", 'c'), ("stable", 's'), ("ignore-case", 'f'), ("output", 'o'), ("field-separator", 't'),
      ("merge", 'm'), ("version-sort", 'V'), ("human-numeric-sort", 'h'),
      ("general-numeric-sort", 'g'), ("ignore-leading-blanks", 'b')]⟩ 2 fun call => do
    let sayings : Sayings :=
      { unopened := fun operand e => Bytes.ofString "cannot read: " ++ plainly operand e
        unread := fun operand e => Bytes.ofString "read failed: " ++ plainly operand e }
    match sortingOf call with
    | .error text =>
      blame text
      return 2
    | .ok s =>
      match ← collectLines (lineEnd call) sayings (orStandard call.operands) with
      | none => return 2
      | some lines =>
        if call.has 'c' || call.has 'C' then
          match disorder? s (call.has 'u') 1 lines with
          | none => return 0
          | some (number, line) =>
            if call.has 'c' then
              blame ((orStandard call.operands).headD [] ++ [':'] ++ Bytes.decimal number ++
                Bytes.ofString ": disorder: " ++ line)
            return 1
        else
          let ordered := lines.mergeSort fun a b => s.compare a b ≠ .gt
          let ordered := if call.has 'u' then ordered.eraseRepsBy fun a b => s.byKeys a b = .eq else ordered
          let text := ordered.flatMap (· ++ [lineEnd call])
          match call.value? 'o' with
          | none =>
            put text
            return 0
          | some path =>
            match ← ask (.openFile path.toText .output) with
            | .error e =>
              blame (Bytes.ofString "open failed: " ++ plainly path e)
              return 2
            | .ok descriptor =>
              let _ ← (System.Action.write descriptor text : System.Action _)
              return 0

/-! ### Repeated lines -/

/-- Runs of lines that agree, each with its first line and all of them. -/
def runsOf (agree : Bytes → Bytes → Bool) (lines : List Bytes) : List (Bytes × List Bytes) :=
  (lines.foldl (fun (runs : List (Bytes × List Bytes)) line => match runs with
    | (first, all) :: rest => if agree first line then (first, line :: all) :: rest else (line, [line]) :: runs
    | [] => [(line, [line])]) []).reverse.map fun run => (run.1, run.2.reverse)

/-- The part of a line by which it is compared with the one before. -/
def comparedPart (call : Call) (line : Bytes) : Bytes :=
  let amount (letter : Char) : Option Nat := (call.value? letter).bind Bytes.number?
  let line := line.drop (Key.fieldsLength none false ((amount 'f').getD 0) line)
  let line := line.drop ((amount 's').getD 0)
  let line := (amount 'w').elim line line.take
  if call.has 'i' then line.map Char.toLower else line

/-- Shows each run of equal lines once. -/
def uniq : Errand :=
  withCall ⟨"cdDiuz", "fsw", [("count", 'c'), ("repeated", 'd'), ("unique", 'u'), ("ignore-case", 'i'),
      ("skip-fields", 'f'), ("skip-chars", 's'), ("check-chars", 'w')]⟩ 1 fun call => do
    let sayings : Sayings := { unread := fun operand e => quotedly "error reading " operand e }
    match call.operands with
    | _ :: _ :: extra :: _ => misuse (Bytes.ofString "extra operand " ++ quote extra) 1
    | operands =>
      match ← collectLines (lineEnd call) sayings ((orStandard operands).take 1) with
      | none => return 1
      | some lines =>
        let runs := runsOf (fun a b => comparedPart call a = comparedPart call b) lines
        let shown := runs.filter fun run =>
          (!(call.has 'd' || call.has 'D') || 1 < run.2.length) && (!call.has 'u' || run.2.length = 1)
        let text := shown.flatMap fun (line, all) =>
          if call.has 'D' then all.flatMap (· ++ [lineEnd call])
          else (if call.has 'c' then column 7 all.length ++ [' '] else []) ++ line ++ [lineEnd call]
        match operands[1]? with
        | none =>
          put text
          return 0
        | some path =>
          match ← ask (.openFile path.toText .output) with
          | .error e =>
            blame (plainly path e)
            return 1
          | .ok descriptor =>
            let _ ← (System.Action.write descriptor text : System.Action _)
            return 0

end Stopwatch.Tool
