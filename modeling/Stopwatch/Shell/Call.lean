import Stopwatch.Shell.Expansion
import Stopwatch.Shell.Jobs
import Stopwatch.Shell.Lookup

/-!
# Calls

What the words of a simple command call: a function, a command of the shell, or a program. A word in front may say
how to look for the command, and which command it is decides how the words behind it are expanded.

- `Call.ofWords`: the call that some words make;
- `become`, `startProgram`: replace the shell by a program, or run one as a child.
-/

namespace Stopwatch.Shell

open Stopwatch.System (Action Image View)
open Step (ask blame setStatus)

/-- What the name of a command stands for. -/
inductive Kind where
  | function (body : Command)
  | builtin
  | program
deriving Inhabited

/-- A command with its arguments, as it is called. -/
structure Call where
  /-- All words, also those that say how to look for the command. -/
  words : List Bytes
  name : Bytes
  arguments : List Bytes
  kind : Kind
  /-- Whether the first of the words is a command whose mistakes end the shell. -/
  isSpecial : Bool
  /-- Whether the program is looked for where programs usually are. -/
  isUsual : Bool
deriving Inhabited

namespace Call

/-- What a name stands for. Functions may not count. -/
def kindOf (s : State) (withFunctions : Bool) (name : Bytes) : Kind :=
  match if withFunctions then s.functions.lookup name else none with
  | some body => .function body
  | none => if Lookup.isBuiltin name then .builtin else .program

/-- The command that says how to look for another one. -/
def seeker : Bytes := "command".toList

/-- Words of which the first ones have been expanded. -/
structure Spread where
  texts : List Bytes
  rest : List Word

/-- Expands words until there is a text at a place, if that is possible. -/
def reach (capture : Command → Step Bytes) (place : Nat) (w : Spread) : Step Spread := do
  if place < w.texts.length then return w
  else
    let (texts, rest) ← Expansion.firstFields capture w.rest
    return ⟨w.texts ++ texts, rest⟩

/-- The place of the command that is meant behind options, and whether it is looked for at the usual places; nothing if
no other command is meant. `fuel` bounds the number of options. -/
def behindOptions (capture : Command → Step Bytes) :
    (fuel : Nat) → (place : Nat) → (isUsual : Bool) → Spread → Step (Spread × Option (Nat × Bool))
  | 0, _, _, w => return (w, none)
  | fuel + 1, place, isUsual, w => do
    let w ← reach capture place w
    match w.texts[place]? with
    | none => return (w, none)
    | some ['-', '-'] =>
      let w ← reach capture (place + 1) w
      return (w, if place + 1 < w.texts.length then some (place + 1, isUsual) else none)
    | some ('-' :: c :: cs) =>
      if (c :: cs).all (· = 'p') then behindOptions capture fuel (place + 1) true w else return (w, none)
    | some _ => return (w, some (place, isUsual))

/-- More options than any command has. -/
def plentiful : Nat := 1000000000

/-- Expands the words behind the command at a place. -/
def ofPlace (capture : Command → Step Bytes) (place : Nat) (kind : Kind) (isSpecial isUsual : Bool) (w : Spread) :
    Step Call := do
  let name := (w.texts[place]?).getD []
  let isDeclaring := match kind with
    | .builtin => Lookup.isDeclaring name
    | _ => false
  let words := w.texts ++ (← Expansion.arguments capture isDeclaring w.rest)
  return ⟨words, name, words.drop (place + 1), kind, isSpecial, isUsual⟩

/-- Looks for the command at a place, or behind it; `fuel` bounds the number of words that only say how to look for
it. -/
def ofSpread (capture : Command → Step Bytes) (withFunctions isUsual : Bool) (isSpecial : Option Bool) :
    (fuel : Nat) → (place : Nat) → Spread → Step Call
  | 0, place, w => ofPlace capture place .program false isUsual w
  | fuel + 1, place, w => do
    let name := (w.texts[place]?).getD []
    let kind := kindOf (← get) withFunctions name
    match kind with
    | .builtin =>
      let isSpecial := isSpecial.getD (Lookup.isSpecial name)
      if name ≠ seeker then ofPlace capture place kind isSpecial isUsual w
      else match ← behindOptions capture plentiful (place + 1) isUsual w with
        | (w, none) => ofPlace capture place kind isSpecial isUsual w
        | (w, some (place, isUsual)) => ofSpread capture false isUsual (some isSpecial) fuel place w
    | _ => ofPlace capture place kind (isSpecial.getD false) isUsual w

/-- The call that some words make, if they give any text. -/
def ofWords (capture : Command → Step Bytes) (words : List Word) : Step (Option Call) := do
  match ← Expansion.firstFields capture words with
  | ([], _) => return none
  | (texts, rest) => return some (← ofSpread capture true false none plentiful 0 ⟨texts, rest⟩)

end Call

/-! ### Programs -/

/-- The image of the first of some paths that has one, or what is wrong with the last one that counts. -/
def firstImage (v : View) (environment : Environment) (called : Bytes) (arguments : List Bytes)
    (mistake : SystemError) : List Bytes → Except SystemError Image
  | [] => .error mistake
  | path :: rest =>
    match System.Loader.loadText v environment path called arguments with
    | .ok image => .ok image
    | .error e => firstImage v environment called arguments (if Lookup.isAbsence e then mistake else e) rest

/-- The paths that a name stands for. -/
def pathsOf (search name : Bytes) : List Bytes :=
  if name.contains '/' then [name] else System.Loader.candidates search name

/-- The status of a command that cannot be executed. -/
def statusOf (e : SystemError) : Nat :=
  if Lookup.isAbsence e || e = .nameTooLong || e = .tooManyLinks then 127 else 126

/-- Replaces the shell by a program at one of some paths. Without one the shell ends. -/
def become (paths : List Bytes) (name : Bytes) (arguments : List Bytes) : Step Unit := do
  match firstImage (← ask .view) (← get).environment name arguments .notFound paths with
  | .ok image => (Action.execute image : Action Unit)
  | .error e =>
    blame (name ++ [':', ' '] ++ Lookup.reason e)
    setStatus (statusOf e)
    throw .over

/-- Runs the program at one of some paths, in place of the shell if that has nothing more to do. -/
def startProgram (isFinal : Bool) (paths : List Bytes) (name : Bytes) (arguments : List Bytes) : Step Unit := do
  if isFinal && !Step.hasTraps (← get) then become paths name arguments
  else
    let pid ← Step.fork do
      Step.becomeSubshell
      become paths name arguments
    Jobs.finish (← Jobs.start [pid])

/-- Looks for a program and runs it. Where it was found is kept. -/
def runProgram (isFinal isUsual : Bool) (name : Bytes) (arguments : List Bytes) : Step Unit := do
  let s ← get
  let search := if isUsual then Lookup.usualPath else s.search
  let known := if isUsual then none else s.located.lookup name
  if name.contains '/' then startProgram isFinal [name] name arguments
  else match known.elim (Lookup.locate (← ask .view) search name) .ok with
    | .error e =>
      blame (name ++ [':', ' '] ++ Lookup.reason e)
      setStatus 127
    | .ok path =>
      if !isUsual then Lookup.keep name path
      startProgram isFinal ((pathsOf search name).dropWhile (· ≠ path)) name arguments

end Stopwatch.Shell
