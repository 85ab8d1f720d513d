import Stopwatch.Shell.Builtin.Directory
import Stopwatch.Shell.Builtin.Input
import Stopwatch.Shell.Builtin.Options
import Stopwatch.Shell.Builtin.Process
import Stopwatch.Shell.Condition

/-!
# Commands of the shell

The commands that a shell carries out itself, apart from those that run other commands. Each takes its
arguments, complains in its own name, and sets the status.

- `Builtin.run`: runs such a command.
-/

namespace Stopwatch.Shell.Builtin

open Step (ask blame complain giveUp setStatus)

/-- Sets the status to the outcome of a test. -/
def test (words : List Bytes) : Step Unit := do
  match Condition.evaluate (← ask .view) words with
  | .ok holds => setStatus (if holds then 0 else 1)
  | .error text => giveUp text

/-- Tells what names stand for. -/
def describe (search : Bytes) (isLong : Bool) (names : List Bytes) : Step Unit := do
  setStatus 0
  let v ← ask .view
  for name in names do
    match Lookup.describe (← get) v search isLong name with
    | some text => print (text ++ ['\n'])
    | none =>
      if isLong then print (name ++ Bytes.ofString ": not found\n")
      setStatus 127

/-- Prints arguments under a format. -/
def printFormatted (arguments : List Bytes) : Step Unit := do
  match ← operands arguments with
  | [] => giveUp (Bytes.ofString "usage: printf format [arg ...]")
  | format :: rest =>
    setStatus 0
    let p := Format.printf format rest
    for (_, c) in p.complaints do
      blame (c.argument ++ Bytes.ofString (match c.defect with
        | .noNumber => ": expected numeric value"
        | .incomplete => ": not completely converted"
        | .outOfRange => ": Numerical result out of range"))
      setStatus 1
    print p.out
    match p.mistake with
    | some .unfinished => giveUp (Bytes.ofString "missing format character")
    | some (.unknown source) => giveUp (source ++ Bytes.ofString ": invalid directive")
    | none => pure ()

/-- Keeps where programs are, or tells it. -/
def hash (arguments : List Bytes) : Step Unit := do
  let (found, names) ← options "r" arguments
  setStatus 0
  if has 'r' found then modify fun s => { s with located := [] }
  else
    if names.isEmpty then
      let ordered := (← get).located.reverse.mergeSort fun a b => hashRank a.1 ≤ hashRank b.1
      print (ordered.flatMap fun l => l.2 ++ ['\n'])
    let v ← ask .view
    for name in names do
      let s ← get
      if !Lookup.isBuiltin name && (s.functions.lookup name).isNone then
        if !name.contains '/' then
          match Lookup.locate v s.search name with
          | .ok path => Lookup.keep name path
          | .error e =>
            blame (name ++ [':', ' '] ++ Lookup.reason e)
            setStatus 1
where
  /-- The place of a program among those that are kept. -/
  hashRank (name : Bytes) : Nat := (name.foldl (fun n c => n + c.toNat) ((name.headD '\x00').toNat * 16)) % 31

/-- Runs a command that needs nothing but the state. -/
def run (name : String) (arguments : List Bytes) : Step Unit := do
  match name with
  | ":" => setStatus 0
  | "true" => setStatus 0
  | "false" => setStatus 1
  | "echo" => tell (Format.echo arguments)
  | "printf" => printFormatted arguments
  | "exit" =>
    if let n :: _ := arguments then
      let n ← number n
      modify fun s => { s with farewell := some n }
    throw .exit
  | "return" =>
    match arguments with
    | n :: _ =>
      setStatus (← number n)
      throw (.giveBack true)
    | [] => throw (.giveBack false)
  | "break" =>
    let n ← loopCount arguments
    setStatus 0
    if let n + 1 := n then throw (.leave n)
  | "continue" =>
    let n ← loopCount arguments
    setStatus 0
    if let n + 1 := n then throw (.again n)
  | "shift" => shift arguments
  | "set" => setParameters arguments
  | "export" => declare "export " Variable.exported (fun v => { v with exported := true }) arguments
  | "readonly" => declare "readonly " Variable.fixed (fun v => { v with fixed := true }) arguments
  | "local" => localise arguments
  | "unset" => unset arguments
  | "cd" => changeDirectory arguments
  | "chdir" => changeDirectory arguments
  | "pwd" => printDirectory arguments
  | "read" => read arguments
  | "wait" => wait arguments
  | "kill" => kill arguments
  | "trap" => trap arguments
  | "test" => test arguments
  | "[" =>
    if arguments.getLast? = some [']'] then test arguments.dropLast
    else giveUp (Bytes.ofString "missing ]")
  | "type" => describe (← get).search true arguments
  | "times" => tell (Bytes.ofString "0m0.000000s 0m0.000000s\n0m0.000000s 0m0.000000s\n")
  | "umask" => changeMask arguments
  | "ulimit" => limit arguments
  | "getopts" => getOption arguments
  | "alias" => setAliases arguments
  | "unalias" => dropAliases arguments
  | "hash" => hash arguments
  | "jobs" => showJobs arguments
  | "bg" => resumeJob arguments
  | "fg" => resumeJob arguments
  | _ => setStatus 0

end Stopwatch.Shell.Builtin
