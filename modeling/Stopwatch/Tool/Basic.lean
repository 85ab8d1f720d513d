import Stopwatch.Bytes
import Stopwatch.Span
import Stopwatch.System.Loader

/-!
# What tools are made of

A tool is a program that comes with the system. It takes the name by which it was called and its arguments, reads
files and its standard input, and writes to its standard output; what it writes is kept until there is enough of it,
or until it complains, or until it ends.

- `Work`: what a tool does;
- `Call.read`: the options and operands in some arguments;
- `overPortions`, `overLines`: go over an input as it comes;
- `overInputs`: goes over the files that the operands name;
- `programOf`: the program that a tool is.
-/

namespace Stopwatch.Tool

open Stopwatch.System (Action Image Program Request View)

/-- What a tool has not written yet. -/
structure Output where
  /-- The texts that wait, latest first. -/
  texts : List Bytes
  size : Nat
  /-- Why something could not be written, if so. -/
  failure : Option SystemError
deriving Inhabited

/-- What a tool does. -/
abbrev Work := ReaderT Image (StateT Output Action)

/-- The work of a tool up to its end, which has an exit status. -/
abbrev Errand := Work Nat

/-- Asks the system for something. -/
def ask (request : Request) : Work request.Answer := (Action.ask request : Action _)

/-! ### Output -/

/-- How much waits to be written at most. -/
def blockSize : Nat := 4096

/-- Writes all that waits. -/
def flush : Work Unit := do
  let o ← get
  if !o.texts.isEmpty then
    set { o with texts := [], size := 0 }
    if o.failure.isNone then
      if let some e ← (Action.write 1 o.texts.reverse.flatten : Action _) then
        modify fun o => { o with failure := some e }

/-- Writes to the standard output. -/
def put (text : Bytes) : Work Unit := do
  if !text.isEmpty then
    modify fun o => { o with texts := text :: o.texts, size := o.size + text.length }
    if blockSize ≤ (← get).size then flush

/-- Whether nothing can be written any more. -/
def isBlocked : Work Bool := do
  return (← get).failure.isSome

/-! ### Complaints -/

/-- Writes a line to the error output. -/
def complain (text : Bytes) : Work Unit := do
  flush
  let _ ← (Action.write 2 (text ++ ['\n']) : Action _)

/-- Complains in the name of the tool. -/
def blame (text : Bytes) : Work Unit := do
  complain ((← read).called ++ [':', ' '] ++ text)

/-- A text in quotes: in double ones if there are single quotes in it and nothing that has a meaning between double
ones. -/
def quote (text : Bytes) : Bytes :=
  let isDouble := text.contains '\'' && !text.any fun c => ['"', '$', '\x60', '\\', '!'].contains c
  if isDouble then '"' :: text ++ ['"'] else '\'' :: text ++ ['\'']

/-- The characters that have a meaning in a shell. -/
def meaningful : Bytes := " \t\n!\"$&'()*;<=>?[\\^\x60|".toList

/-- A name, in quotes if a shell would take it for something else. -/
def named (text : Bytes) : Bytes :=
  let isPlain := !text.isEmpty && text.head? ≠ some '#' && text.head? ≠ some '~' &&
    !text.any fun c => meaningful.contains c
  if isPlain then text else quote text

/-- Complains about a call, and tells where help is. -/
def misuse (text : Bytes) (status : Nat) : Errand := do
  blame text
  complain (Bytes.ofString "Try '" ++ (← read).called ++ Bytes.ofString " --help' for more information.")
  return status

/-- The words for an error. -/
def words (e : SystemError) : Bytes := Bytes.ofString e.description

/-- What is said about a file that cannot be read. -/
def plainly (operand : Bytes) (e : SystemError) : Bytes := named operand ++ [':', ' '] ++ words e

/-- What is said about a file with which something cannot be done. -/
def quotedly (what : String) (operand : Bytes) (e : SystemError) : Bytes :=
  Bytes.ofString what ++ quote operand ++ [':', ' '] ++ words e

/-- The program that a tool is. What could not be written makes it fail. -/
def programOf (tool : Errand) (image : Image) : Program :=
  let whole : Errand := do
    let status ← tool
    flush
    match (← get).failure with
    | none => return status
    | some e =>
      blame (Bytes.ofString "write error: " ++ words e)
      return 1
  Action.toProgram (Prod.fst <$> (whole.run image).run default)

/-! ### Arguments -/

/-- What the arguments of a tool say: the letters of options with their values, and the operands. -/
structure Call where
  options : List (Char × Bytes)
  operands : List Bytes
deriving Repr, Inhabited

/-- The options that a tool knows. -/
structure Options where
  /-- The letters of those without a value. -/
  flags : String
  /-- The letters of those with a value. -/
  valued : String
  /-- The long names of some of them. -/
  long : List (String × Char)

namespace Call

def has (call : Call) (letter : Char) : Bool := call.options.any (·.1 = letter)

/-- The value of the last option with a letter. -/
def value? (call : Call) (letter : Char) : Option Bytes := call.options.reverse.lookup letter

/-- Reads the letters of an argument. The value of an option is the rest of the argument, or else the next
argument. -/
def readLetters (known : Options) : Bytes → List Bytes → Except Bytes (List (Char × Bytes) × List Bytes)
  | [], rest => .ok ([], rest)
  | c :: cs, rest =>
    if known.flags.toList.contains c then do
      let (more, rest) ← readLetters known cs rest
      return ((c, []) :: more, rest)
    else if !known.valued.toList.contains c then
      .error (Bytes.ofString "invalid option -- " ++ quote [c])
    else if !cs.isEmpty then .ok ([(c, cs)], rest)
    else match rest with
      | value :: rest => .ok ([(c, value)], rest)
      | [] => .error (Bytes.ofString "option requires an argument -- " ++ quote [c])

/-- Reads an option with a long name. -/
def readLong (known : Options) (text : Bytes) (rest : List Bytes) :
    Except Bytes ((Char × Bytes) × List Bytes) :=
  let name := text.takeWhile (· ≠ '=')
  match known.long.lookup (String.ofList name), (text.drop name.length).tail?, rest with
  | some letter, some value, rest => .ok ((letter, value), rest)
  | some letter, none, rest =>
    if !known.valued.toList.contains letter then .ok ((letter, []), rest)
    else match rest with
      | value :: rest => .ok ((letter, value), rest)
      | [] => .error (Bytes.ofString "option " ++ quote ('-' :: '-' :: name) ++
          Bytes.ofString " requires an argument")
  | none, _, _ => .error (Bytes.ofString "unrecognized option " ++ quote ('-' :: '-' :: text))

/-- Reads arguments; `fuel` bounds their number. Operands may stand in front of options, unless options have to
come first. -/
def readFrom (known : Options) (isOrdered : Bool) : (fuel : Nat) → List Bytes → Except Bytes Call
  | 0, _ => .ok ⟨[], []⟩
  | _, [] => .ok ⟨[], []⟩
  | _, ['-', '-'] :: rest => .ok ⟨[], rest⟩
  | fuel + 1, ('-' :: '-' :: text) :: rest => do
    let (option, rest) ← readLong known text rest
    let call ← readFrom known isOrdered fuel rest
    return { call with options := option :: call.options }
  | fuel + 1, ('-' :: c :: cs) :: rest => do
    let (options, rest) ← readLetters known (c :: cs) rest
    let call ← readFrom known isOrdered fuel rest
    return { call with options := options ++ call.options }
  | fuel + 1, operand :: rest =>
    if isOrdered then return ⟨[], operand :: rest⟩
    else do
      let call ← readFrom known isOrdered fuel rest
      return { call with operands := operand :: call.operands }

/-- Reads the arguments of a tool. -/
def read (known : Options) (arguments : List Bytes) : Except Bytes Call :=
  readFrom known false (arguments.length + 1) arguments

/-- Reads the arguments of a tool whose options come first. -/
def readOrdered (known : Options) (arguments : List Bytes) : Except Bytes Call :=
  readFrom known true (arguments.length + 1) arguments

end Call

/-- Does what the arguments of a tool say, unless they are wrong; then `status` is the exit status. -/
def withCall (known : Options) (status : Nat) (use : Call → Errand) : Errand := do
  match Call.read known (← read).arguments with
  | .ok call => use call
  | .error text => misuse text status

/-- Does what the arguments of a tool say whose options come first. -/
def withOrderedCall (known : Options) (status : Nat) (use : Call → Errand) : Errand := do
  match Call.readOrdered known (← read).arguments with
  | .ok call => use call
  | .error text => misuse text status

/-! ### Input -/

/-- More readings than any input takes that has an end. -/
def plentiful : Nat := Action.plentiful

/-- Goes over the portions of an input; gives what went wrong, if something did. -/
def overPortionsFrom {σ : Type} (descriptor most : Nat) (use : σ → Bytes → Work σ) :
    (fuel : Nat) → σ → Work (σ × Option SystemError)
  | 0, s => return (s, none)
  | fuel + 1, s => do
    match ← ask (.read descriptor most false) with
    | .error e => return (s, some e)
    | .ok [] => return (s, none)
    | .ok text =>
      let s ← use s text
      if ← isBlocked then return (s, none)
      overPortionsFrom descriptor most use fuel s

/-- Goes over the portions of an input; gives what went wrong, if something did. -/
def overPortions {σ : Type} (descriptor : Nat) (use : σ → Bytes → Work σ) (s : σ) :
    Work (σ × Option SystemError) :=
  overPortionsFrom descriptor Action.portion use plentiful s

/-- The whole lines of a text, and what comes behind the last of them. -/
def wholeLines (text : Bytes) : List Bytes × Bytes :=
  let (lines, current) := text.foldl (fun ((lines, current) : List Bytes × Bytes) c =>
    if c = '\n' then ((c :: current).reverse :: lines, []) else (lines, c :: current)) ([], [])
  (lines.reverse, current.reverse)

/-- Goes over the lines of an input, each with its line feed if it has one. -/
def overLines {σ : Type} (descriptor : Nat) (use : σ → Bytes → Work σ) (s : σ) :
    Work (σ × Option SystemError) := do
  let ((s, rest), e) ← overPortions descriptor (fun ((s, rest) : σ × Bytes) text => do
    let (lines, rest) := wholeLines (rest ++ text)
    return (← lines.foldlM use s, rest)) (s, [])
  let s ← if rest.isEmpty then pure s else use s rest
  return (s, e)

/-- All that a descriptor gives, and what went wrong, if something did. -/
def takeAll (descriptor : Nat) : Work (Bytes × Option SystemError) := do
  let (texts, e) ← overPortions descriptor (fun (texts : List Bytes) text => return text :: texts) []
  return (texts.reverse.flatten, e)

/-- The operands of a tool; without any it reads the standard input. -/
def orStandard (operands : List Bytes) : List Bytes := if operands.isEmpty then [['-']] else operands

/-- Opens what an operand names. A single dash stands for the standard input. -/
def openOperand (operand : Bytes) : Work (Except SystemError Nat) := do
  if operand = ['-'] then return .ok 0 else ask (.openFile operand.toText .input)

/-- Closes what an operand named. -/
def closeOperand (descriptor : Nat) : Work Unit := do
  if descriptor ≠ 0 then ask (.close descriptor)

/-- How a tool says that a file cannot be opened, and that it cannot be read. -/
structure Sayings where
  unopened : Bytes → SystemError → Bytes := plainly
  unread : Bytes → SystemError → Bytes := plainly

/-- Goes over operands. `use` gives what went wrong with what it reads; the status is one if something did. -/
def overInputs (sayings : Sayings) (use : Bytes → Nat → Work (Option SystemError)) (operands : List Bytes) :
    Errand := do
  let mut status := 0
  for operand in operands do
    match ← openOperand operand with
    | .error e =>
      blame (sayings.unopened operand e)
      status := 1
    | .ok descriptor =>
      if let some e ← use operand descriptor then
        blame (sayings.unread operand e)
        status := 1
      closeOperand descriptor
      if ← isBlocked then return status
  return status

/-- Goes over operands; the status is one if something could not be done with one of them. -/
def overOperands (use : Bytes → Work Bool) (operands : List Bytes) : Errand := do
  let mut status := 0
  for operand in operands do
    if !(← use operand) then status := 1
  return status

/-! ### Files -/

/-- Changes the files, or says what could not be done with one of them. Tells whether it was done. -/
def change (what : String) (operand : Bytes) (f : View → Except SystemError System.Disk) : Work Bool := do
  match ← ask (.alter f) with
  | .ok _ => return true
  | .error e =>
    blame (quotedly what operand e)
    return false

/-- Says that there are not enough operands. -/
def missingOperand : Errand := misuse (Bytes.ofString "missing operand") 1

/-! ### Texts -/

/-- Whether a character separates words. -/
def isSpace (c : Char) : Bool := [' ', '\t', '\n', '\x0b', '\x0c', '\r'].contains c

/-- A number with blanks in front, up to a width. -/
def column (width n : Nat) : Bytes :=
  let digits := Bytes.decimal n
  List.replicate (width - digits.length) ' ' ++ digits

end Stopwatch.Tool
