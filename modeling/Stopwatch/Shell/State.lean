import Stopwatch.Shell.Syntax
import Stopwatch.Span
import Stopwatch.System.Loader

/-!
# The state of a shell

What a shell knows that the system does not: its variables, functions, options and traps, the processes that it
has started, and the place of the command that it carries out.

- `Variable`, `Job`, `State`: what a shell knows;
- `State.parameter?`: the values of parameters;
- `State.environment`: the variables that programs get.
-/

namespace Stopwatch.Shell

open Stopwatch.System (Ending Signal View)

/-- A variable; without a value it only has its marks. -/
structure Variable where
  value : Option Bytes
  /-- Whether programs get it. -/
  exported : Bool
  /-- Whether its value cannot be changed. -/
  fixed : Bool
deriving DecidableEq, Repr, Inhabited

/-- The variables that a program gets, with their values. -/
abbrev Environment := List (Bytes × Bytes)

/-- Processes that were started together. -/
structure Job where
  /-- The number by which the job is called. -/
  number : Nat
  /-- The processes, first one first, with their ends as far as these are known. -/
  processes : List (Nat × Option Ending)
  /-- Whether somebody has waited for the job. -/
  isAwaited : Bool
deriving Repr, Inhabited

namespace Job

/-- Whether all processes of a job have ended. -/
def isDone (job : Job) : Bool := job.processes.all (·.2.isSome)

/-- The process that counts for all, which is the last one. -/
def pid (job : Job) : Nat := (job.processes.getLast?).elim 0 Prod.fst

/-- The end of the process that counts. -/
def ending (job : Job) : Ending := ((job.processes.getLast?).bind Prod.snd).getD (.exited 0)

end Job

/-- How a command leaves its surroundings. -/
inductive Flow where
  /-- Out of so many loops around the innermost one. -/
  | leave (loops : Nat)
  /-- To the next turn of a loop around so many others. -/
  | again (loops : Nat)
  /-- Out of a function, or of a script that another one reads; perhaps with a status that was told. -/
  | giveBack (isTold : Bool)
  /-- Out of the shell, because it was told to. -/
  | exit
  /-- Out of the shell, which has nothing more to do. -/
  | over
  /-- Out of the shell, because of a mistake. -/
  | fail
deriving DecidableEq, Repr, Inhabited

structure State where
  /-- The name of the script. -/
  name : Bytes
  parameters : List Bytes
  /-- The variables, oldest first. -/
  bindings : List (Bytes × Variable)
  /-- The functions, latest first. -/
  functions : List (Bytes × Command)
  /-- The words that stand for other texts. -/
  aliases : List (Bytes × Bytes)
  status : Nat
  /-- The status with which the shell ends, if that has been told. -/
  farewell : Option Nat
  /-- The status of the last command substitution of a command. -/
  substituted : Nat
  /-- The command of the shell in which others are carried out. -/
  context : Bytes
  /-- The line of the command that is carried out. -/
  line : Nat
  /-- The line up to which commands have been read. -/
  reached : Nat
  /-- How many loops there are around it. -/
  loops : Nat
  /-- How many functions there are around it. -/
  calls : Nat
  /-- What local variables hide, latest first. -/
  hidden : List (Bytes × Option Variable)
  /-- The path on which the shell came to its directory. -/
  route : Bytes
  /-- The number of the shell; its subshells keep it. -/
  pid : Nat
  /-- The last process in the background. -/
  background : Option Nat
  /-- The jobs, latest first. -/
  jobs : List Job
  /-- The commands to carry out at signals and at the exit. -/
  traps : List (Signal × Bytes)
  /-- The signals that were ignored when the shell started. It cannot change that. -/
  deaf : List Signal
  /-- The signals that have come and have not been looked at. -/
  arrived : List Signal
  /-- The letters of the options that are on. -/
  options : Bytes
  /-- The number of the parameter at which options are read next, counted from one. -/
  optionIndex : Nat
  /-- How much of the parameter before it has been read, if there is more of it. -/
  optionOffset : Option Nat
  /-- The paths of the programs that have been looked for. -/
  located : List (Bytes × Bytes)
  /-- The descriptor on which commands are shown. -/
  display : Nat
  /-- Whether a command is being shown. -/
  isShowing : Bool
  /-- Whether something that was printed is lost. -/
  hasLost : Bool
deriving Inhabited

namespace State

/-! ### Options -/

/-- The letters of all options, in the order in which the shell tells them. -/
def optionLetters : Bytes := "efIimnsxvVECabup".toList

/-- The names of all options, in the same order. -/
def optionNames : List String :=
  ["errexit", "noglob", "ignoreeof", "interactive", "monitor", "noexec", "stdin", "xtrace", "verbose",
    "vi", "emacs", "noclobber", "allexport", "notify", "nounset", "privileged"]

/-- Whether the option with a letter is on. -/
def isOn (s : State) (letter : Char) : Bool := s.options.contains letter

/-- Options after the one with a letter is turned on or off. -/
def turned (letter : Char) (value : Bool) (options : Bytes) : Bytes :=
  let others := options.filter (· ≠ letter)
  if value then letter :: others else others

/-- The letter of the option with a name. -/
def optionLetter? (name : Bytes) : Option Char :=
  (optionNames.zip optionLetters).lookup (String.ofList name)

/-! ### Variables -/

def binding? (s : State) (name : Bytes) : Option Variable := s.bindings.lookup name

/-- The value of a variable, if it has one. -/
def valueOf? (s : State) (name : Bytes) : Option Bytes := (s.bindings.lookup name).bind Variable.value

/-- The value of a variable with a name that is known, or nothing. -/
def valueOf (s : State) (name : String) : Bytes := (s.valueOf? name.toList).getD []

/-- Replaces a variable in place, or adds it at the end. -/
def putBinding (name : Bytes) (v : Variable) : List (Bytes × Variable) → List (Bytes × Variable)
  | [] => [(name, v)]
  | b :: bs => if b.1 = name then (name, v) :: bs else b :: putBinding name v bs

/-- A state in which a variable, which may be new, has been changed. -/
def changeVariable (name : Bytes) (change : Variable → Variable) (s : State) : State :=
  { s with bindings := putBinding name (change ((s.bindings.lookup name).getD default)) s.bindings }

/-- A state without a variable. -/
def withoutVariable (name : Bytes) (s : State) : State :=
  { s with bindings := s.bindings.filter (·.1 ≠ name) }

/-- The variable that tells at which parameter options are read next. -/
def optionIndexName : Bytes := "OPTIND".toList

/-- The variable that tells where programs are. -/
def searchName : Bytes := "PATH".toList

/-- What follows from a new value of a variable: options are read from another parameter on, or programs have to
be looked for again. -/
def afterChange (name value : Bytes) (s : State) : State :=
  if name = optionIndexName then
    { s with
      optionIndex := max 1 (Nat.ofDigitChars 10 (value.filter Char.isDigit) 0)
      optionOffset := none }
  else if name = searchName then { s with located := [] }
  else s

/-- Gives a variable a value; with the right option programs get it too. -/
def withVariable (name value : Bytes) (s : State) : State :=
  let everywhere := s.isOn 'a'
  (s.changeVariable name fun v => { v with value := some value, exported := v.exported || everywhere }).afterChange
    name value

/-- A state in which a variable is as it was. -/
def withFormer (name : Bytes) (former : Option Variable) (s : State) : State :=
  let s := match former with
    | some v => s.changeVariable name fun _ => v
    | none => s.withoutVariable name
  s.afterChange name ((former.bind Variable.value).getD [])

/-- Keeps what a variable is, which becomes local. -/
def covered (name : Bytes) (s : State) : State := { s with hidden := (name, s.binding? name) :: s.hidden }

/-- Brings back what local variables hide, but for the first ones. -/
def uncovered (count : Nat) (s : State) : State :=
  let inner := s.hidden.take (s.hidden.length - count)
  inner.foldl (fun s (name, former) => s.withFormer name former) { s with hidden := s.hidden.drop inner.length }

/-- The place of a variable among those that programs get. -/
def rank (name : Bytes) : Nat := (name.foldl (fun n c => n + c.toNat) ((name.headD '\x00').toNat * 16)) % 39

/-- The variables that programs get, in the order in which they get them. -/
def environment (s : State) : Environment :=
  (s.bindings.filterMap fun (name, v) =>
    if v.exported then v.value.map fun value => (name, value) else none).mergeSort fun a b =>
      rank a.1 ≤ rank b.1

/-- The characters that separate the fields of an expansion. -/
def separators (s : State) : Bytes := (s.valueOf? "IFS".toList).getD [' ', '\t', '\n']

/-! ### Parameters -/

/-- What stands between the parameters when they make up one text. -/
def joint (s : State) : Bytes := ((s.valueOf? "IFS".toList).getD [' ']).take 1

/-- The value of a parameter, if it has one. -/
def parameter? (s : State) (name : Bytes) : Option Bytes :=
  match name with
  | ['#'] => some (Bytes.decimal s.parameters.length)
  | ['?'] => some (Bytes.decimal s.status)
  | ['$'] => some (Bytes.decimal s.pid)
  | ['!'] => s.background.map Bytes.decimal
  | ['-'] => some (optionLetters.reverse.filter s.isOn)
  | ['0'] => some s.name
  | ['@'] => some (s.joint.intercalate s.parameters)
  | ['*'] => some (s.joint.intercalate s.parameters)
  | c :: _ =>
    if c.isDigit then
      match Nat.ofDigitChars 10 name 0 with
      | 0 => some s.name
      | n + 1 => s.parameters[n]?
    else s.valueOf? name
  | [] => none

/-- Where programs are looked for. -/
def search (s : State) : Bytes := s.valueOf "PATH"

end State

end Stopwatch.Shell
