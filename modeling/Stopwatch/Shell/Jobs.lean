import Stopwatch.Shell.Step

/-!
# Jobs

The processes that a shell has started, in the groups in which it has started them. The shell hears of every child
that ends, but only says so about the job for which it waits.

- `Jobs.start`: a new job;
- `Jobs.await`: waits for one job, or for any;
- `Jobs.finish`: waits for a job in the foreground, whose status becomes that of the command;
- `Jobs.find`: the job that a text stands for.
-/

namespace Stopwatch.Shell.Jobs

open Stopwatch.System (Ending Patience Signal)
open Step (ask complain setStatus giveUp)

/-- The first number that is free, or whose job nobody cares for any more; `fuel` bounds the attempts. -/
def freeNumberFrom (jobs : List Job) : (fuel : Nat) → Nat → Nat
  | 0, n => n
  | fuel + 1, n =>
    match jobs.find? (·.number = n) with
    | none => n
    | some job => if job.isDone && job.isAwaited then n else freeNumberFrom jobs fuel (n + 1)

/-- Makes a job of processes; gives its number. -/
def start (pids : List Nat) : Step Nat := do
  let jobs := (← get).jobs
  let number := freeNumberFrom jobs (jobs.length + 1) 1
  let job : Job := ⟨number, pids.map (·, none), false⟩
  modify fun s => { s with jobs := job :: s.jobs.filter (·.number ≠ number) }
  return number

/-- Forgets a job. -/
def drop (number : Nat) : Step Unit :=
  modify fun s => { s with jobs := s.jobs.filter (·.number ≠ number) }

def job? (s : State) (number : Nat) : Option Job := s.jobs.find? (·.number = number)

/-- Whether a job with a number is over. -/
def isOver (number : Option Nat) : Step Bool := do
  let s ← get
  return number.any fun n => (job? s n).all Job.isDone

/-- The signals about which nothing is said. -/
def isQuiet (signal : Signal) : Bool := signal = .interrupt || signal = .brokenPipe

/-- Keeps the end of a child. It is told if it belongs to the job for which the shell waits. -/
def note (pid : Nat) (ending : Ending) (awaited : Option Nat) : Step Unit := do
  match (← get).jobs.find? fun job => !job.isDone && job.processes.any (·.1 = pid) with
  | none => return
  | some job =>
    modify fun s => { s with
      jobs := s.jobs.map fun j =>
        if j.number = job.number then
          { j with processes := j.processes.map fun p => if p.1 = pid then (pid, some ending) else p }
        else j }
    if awaited = some job.number then
      if let .killed signal := ending then
        if !isQuiet signal then
          if let some text := Signal.obituary? signal then complain (Bytes.ofString text)

/-- Waits for a job, or for any if there is none; then also hears of all others that have ended. Gives whether no
signal came between. `fuel` bounds the number of children. -/
def awaitFrom (awaited : Option Nat) : (fuel : Nat) → Patience → Step Bool
  | 0, _ => return true
  | fuel + 1, patience => do
    match ← ask (.await patience) with
    | .ended pid ending =>
      note pid ending awaited
      let isEnough := awaited.isNone || (← isOver awaited)
      awaitFrom awaited fuel (if isEnough then .none else patience)
    | .interrupted =>
      Step.listen
      let _ ← awaitFrom awaited fuel .none
      return false
    | _ => return true

/-- More children than any shell has. -/
def plentiful : Nat := 1000000000

/-- Waits for a job, or for any if there is none. Gives whether no signal came between. -/
def await (awaited : Option Nat) (patience : Patience) : Step Bool := do
  awaitFrom awaited plentiful (if ← isOver awaited then .none else patience)

/-- Hears of all children that have ended. -/
def reap : Step Unit := do
  let _ ← await none .none

/-- Waits for a job in the foreground. Its status becomes that of the command. -/
def finish (number : Nat) : Step Unit := do
  let _ ← await (some number) .endless
  if let some job := job? (← get) number then setStatus job.ending.status
  drop number

/-- The number that stands behind a percent sign. -/
def numbered? (text : Bytes) : Option Nat := if text.isEmpty then none else Bytes.number? text

/-- The job that a text stands for. -/
def find (text : Option Bytes) : Step Job := do
  let jobs := (← get).jobs
  let check {α : Type} (found : Option α) (complaint : Bytes) : Step α := match found with
    | some a => return a
    | none => giveUp complaint
  let unknown : Bytes := Bytes.ofString "No such job: " ++ text.getD []
  let current : Step Job := check jobs.head? (Bytes.ofString "No current job")
  match text with
  | none => current
  | some ['%'] => current
  | some ['%', '%'] => current
  | some ['%', '+'] => current
  | some ['%', '-'] => check jobs.tail.head? (Bytes.ofString "No previous job")
  | some ('%' :: rest) => check ((numbered? rest).bind (job? (← get))) unknown
  | some _ => check none unknown

/-! ### Showing jobs -/

/-- How a process ended, in words. -/
def outcome : Ending → Bytes
  | .exited 0 => Bytes.ofString "Done"
  | .exited n => Bytes.ofString "Done(" ++ Bytes.decimal n ++ [')']
  | .killed signal => Bytes.ofString ((Signal.obituary? signal).getD
      (if signal = .interrupt then "Interrupt" else "Broken pipe"))

/-- The mark of a job: that of the current one, or of the one before it. -/
def mark (jobs : List Job) (number : Nat) : Char :=
  match jobs with
  | first :: rest =>
    if first.number = number then '+'
    else if rest.head?.any (·.number = number) then '-' else ' '
  | [] => ' '

/-- Fills a column up to a width, with at least one blank. -/
def padded (width : Nat) (text : Bytes) : Bytes := text ++ List.replicate (max 1 (width - text.length)) ' '

/-- The lines that tell about a job, perhaps with the numbers of its processes. -/
def describe (jobs : List Job) (withNumbers : Bool) (job : Job) : Bytes :=
  let state := if job.isDone then outcome job.ending else Bytes.ofString "Running"
  let head := ['['] ++ Bytes.decimal job.number ++ [']', ' ', mark jobs job.number, ' ']
  let pids := job.processes.map Prod.fst
  let number (pid : Nat) : Bytes := if withNumbers then Bytes.decimal pid ++ [' '] else []
  let first := padded 33 (head ++ number (pids.headD 0) ++ state)
  if withNumbers then
    first ++ (pids.tail.flatMap fun pid =>
      padded 33 ([' ', '|', '\n'] ++ List.replicate head.length ' ' ++ number pid)) ++ ['\n']
  else first ++ (pids.tail.flatMap fun _ => [' ', '|', ' ']) ++ ['\n']

end Stopwatch.Shell.Jobs
