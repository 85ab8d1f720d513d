import Stopwatch.Tool.Basic

/-!
# Parts of lines

The tool that picks bytes or fields out of each line, by their numbers.

- `Range.readList`: the ranges that a list names;
- `Range.merge`, `Range.complement`: ranges in order, and what lies between them;
- `cut`: the tool.
-/

namespace Stopwatch.Tool

/-- The numbers from a first to a last one, if there is a last one. -/
structure Range where
  first : Nat
  last : Option Nat
deriving DecidableEq, Repr, Inhabited

namespace Range

def contains (r : Range) (n : Nat) : Bool := r.first ≤ n && r.last.all (n ≤ ·)

/-- What is wrong with a list of ranges. -/
inductive Defect where
  /-- A number is zero. -/
  | zero
  /-- There is more than one dash in a range. -/
  | dashes
  /-- There is a dash without numbers. -/
  | endless
  /-- The last number is smaller than the first one. -/
  | decreasing
  /-- There is something else than a number. -/
  | strange (text : Bytes)

/-- The words for a defect of a list of fields, or of bytes. -/
def Defect.text (ofFields : Bool) : Defect → Bytes
  | zero => Bytes.ofString
      (if ofFields then "fields are numbered from 1" else "byte/character positions are numbered from 1")
  | dashes => Bytes.ofString (if ofFields then "invalid field range" else "invalid byte or character range")
  | endless => Bytes.ofString "invalid range with no endpoint: -"
  | decreasing => Bytes.ofString "invalid decreasing range"
  | strange text => Bytes.ofString
      (if ofFields then "invalid field value " else "invalid byte/character position ") ++ quote text

/-- Reads one range; `behind` is the rest of the list. -/
def readItem (item behind : Bytes) : Except Defect Range :=
  let first := item.takeWhile Char.isDigit
  match item.drop first.length, Bytes.number? first with
  | [], number =>
    if number.getD 0 = 0 then .error .zero else .ok ⟨number.getD 0, number⟩
  | '-' :: rest, number =>
    let last := rest.takeWhile Char.isDigit
    if number = some 0 then .error .zero
    else match rest.drop last.length, Bytes.number? last with
      | [], none => if number.isNone then .error .endless else .ok ⟨number.getD 1, none⟩
      | [], some n => if n < number.getD 1 then .error .decreasing else .ok ⟨number.getD 1, some n⟩
      | '-' :: _, _ => .error .dashes
      | text, _ => .error (.strange (text ++ behind))
  | text, _ => .error (.strange (text ++ behind))

/-- What separates the ranges of a list. -/
def isSeparator (c : Char) : Bool := c = ',' || c = ' ' || c = '\t'

/-- Reads a list of ranges; `fuel` bounds their number. -/
def readFrom : (fuel : Nat) → Bytes → Except Defect (List Range)
  | 0, _ => .ok []
  | fuel + 1, text => do
    let item := text.takeWhile (!isSeparator ·)
    let behind := text.drop item.length
    let range ← readItem item behind
    match behind with
    | [] => return [range]
    | _ :: rest => return range :: (← readFrom fuel rest)

/-- Reads a list of ranges. -/
def readList (text : Bytes) : Except Defect (List Range) := readFrom (text.length + 1) text

/-- Puts a range in front of others that start later. Those that overlap become one. -/
def join (r : Range) : List Range → List Range
  | [] => [r]
  | next :: rest =>
    match r.last, next.last with
    | none, _ => [r]
    | some a, some b => if next.first ≤ a then join ⟨r.first, some (max a b)⟩ rest else r :: next :: rest
    | some a, none => if next.first ≤ a then [⟨r.first, none⟩] else r :: next :: rest

/-- Ranges in order, of which no two overlap. -/
def merge (ranges : List Range) : List Range :=
  (ranges.mergeSort fun a b => a.first ≤ b.first).foldr join []

/-- What lies between ranges in order, from some number on. -/
def complementFrom (n : Nat) : List Range → List Range
  | [] => [⟨n, none⟩]
  | r :: rest =>
    let gap := if n < r.first then [⟨n, some (r.first - 1)⟩] else []
    match r.last with
    | none => gap
    | some last => gap ++ complementFrom (last + 1) rest

/-- What lies between ranges in order. -/
def complement (ranges : List Range) : List Range := complementFrom 1 ranges

end Range

/-- What is picked out of lines. -/
structure Selection where
  ranges : List Range
  /-- What stands between fields; nothing if bytes are picked. -/
  separator : Option Char
  /-- What is put between the parts, if not the separator. -/
  glue : Option Bytes
  /-- Whether lines without a separator are left out. -/
  isStrict : Bool

namespace Selection

def isChosen (s : Selection) (n : Nat) : Bool := s.ranges.any (·.contains n)

/-- The bytes that are picked out of a line. -/
def bytes (s : Selection) (line : Bytes) : Bytes :=
  ((line.zipIdx 1).filter fun (_, n) => s.isChosen n).zipIdx.flatMap fun ((c, n), i) =>
    (if i ≠ 0 && s.ranges.any (·.first = n) then s.glue.getD [] else []) ++ [c]

/-- The fields that are picked out of a line. -/
def fields (s : Selection) (separator : Char) (line : Bytes) : Option Bytes :=
  let fields := Bytes.split separator line
  if fields.length ≤ 1 then (if s.isStrict then none else some line)
  else
    some ((s.glue.getD [separator]).intercalate
      (((fields.zipIdx 1).filter fun (_, n) => s.isChosen n).map Prod.fst))

/-- What is picked out of a line, if it is not left out. -/
def apply (s : Selection) (line : Bytes) : Option Bytes :=
  match s.separator with
  | none => some (s.bytes line)
  | some separator => s.fields separator line

/-- What some options ask for, or why they make no sense. -/
def of (call : Call) : Except Bytes Selection := do
  let lists := call.options.filter fun o => ['b', 'c', 'f'].contains o.1
  let separators := (call.options.filter (·.1 = 'd')).map Prod.snd
  if separators.any fun text => 1 < text.length then
    throw (Bytes.ofString "the delimiter must be a single character")
  match lists with
  | [] => throw (Bytes.ofString "you must specify a list of bytes, characters, or fields")
  | _ :: _ :: _ => throw (Bytes.ofString "only one list may be specified")
  | [(kind, list)] =>
    let ofFields := kind = 'f'
    if !ofFields && !separators.isEmpty then
      throw (Bytes.ofString "an input delimiter may be specified only when operating on fields")
    if !ofFields && call.has 's' then
      throw (Bytes.ofString
        "suppressing non-delimited lines makes sense\n\tonly when operating on fields")
    let ranges ← (Range.readList list).mapError (·.text ofFields)
    let ranges := Range.merge ranges
    let separator := (separators.getLast?.getD ['\t']).headD '\x00'
    return ⟨if call.has 'x' then Range.complement ranges else ranges,
      if ofFields then some separator else none, call.value? 'o', call.has 's'⟩

end Selection

/-- Picks bytes or fields out of each line. -/
def cut : Errand :=
  withCall ⟨"snx", "bcdfo", [("bytes", 'b'), ("characters", 'c'), ("delimiter", 'd'), ("fields", 'f'),
      ("only-delimited", 's'), ("complement", 'x'), ("output-delimiter", 'o')]⟩ 1 fun call => do
    match Selection.of call with
    | .error text => misuse text 1
    | .ok s =>
      overInputs {} (fun _ descriptor => do
        let ((), e) ← overLines descriptor (fun () line => do
          if let some part := s.apply (Bytes.bare line) then put (part ++ ['\n'])) ()
        return e) (orStandard call.operands)

end Stopwatch.Tool
