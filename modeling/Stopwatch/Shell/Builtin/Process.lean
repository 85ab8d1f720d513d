import Stopwatch.Shell.Builtin.Basic
import Stopwatch.Shell.Jobs
import Stopwatch.Shell.Lookup

/-!
# Commands on processes

The commands that wait for processes, send signals, say what is to be done at signals, show jobs, and limit what
processes may use.
-/

namespace Stopwatch.Shell.Builtin

open Stopwatch.System (Limit Signal)
open Step (ask blame complain giveUp setStatus)

/-! ### Waiting -/

/-- Waits until no job runs any more; gives whether no signal came between. `fuel` bounds the number of jobs. -/
def waitForAll : (fuel : Nat) → Step Bool
  | 0 => return true
  | fuel + 1 => do
    if (← get).jobs.all Job.isDone then
      modify fun s => { s with jobs := s.jobs.map fun j => { j with isAwaited := true } }
      return true
    else if ← Jobs.await none .untilSignal then waitForAll fuel
    else return false

/-- The job that a text stands for, if it is one of this shell. -/
def jobOf (text : Bytes) : Step (Option Job) := do
  if text.head? = some '%' then return some (← Jobs.find (some text))
  else
    let pid ← number text
    return (← get).jobs.find? (·.pid = pid)

/-- Waits for some jobs, and ends with the status of the last one. -/
def waitForEach : List Bytes → Step Bool
  | [] => return true
  | text :: rest => do
    match ← jobOf text with
    | none => waitForEach rest
    | some job =>
      if ← Jobs.await (some job.number) .untilSignal then
        modify fun s => { s with
          jobs := s.jobs.map fun j => if j.number = job.number then { j with isAwaited := true } else j }
        setStatus ((Jobs.job? (← get) job.number).getD job).ending.status
        waitForEach rest
      else return false

/-- Waits for jobs, or for all of them. A signal that is looked at ends the waiting. -/
def wait (arguments : List Bytes) : Step Unit := do
  let names ← operands arguments
  let isUndisturbed ← if names.isEmpty then
      setStatus 0
      waitForAll Jobs.plentiful
    else
      setStatus 127
      waitForEach names
  if !isUndisturbed then setStatus (Signal.status (((← get).arrived.getLast?).getD 0))

/-! ### Signals -/

/-- The signal that a text stands for; nothing that is at the exit only. -/
def signalOf? (text : Bytes) : Option Signal :=
  match Signal.ofBytes? text with
  | some 0 => if text.all Char.isDigit then some 0 else none
  | other => other

/-- Tells the names of signals, of all of them or of that which an exit status tells. -/
def listSignals : List Bytes → Step Unit
  | [] =>
    tell ((List.range (Signal.greatest + 1)).flatMap fun signal =>
      Bytes.ofString ((if signal = 0 then "0" else Signal.name signal) ++ "\n"))
  | text :: _ => do
    let n ← number text
    let signal := if 128 < n then n - 128 else n
    if 0 < signal && signal ≤ Signal.greatest then tell (Bytes.ofString (Signal.name signal ++ "\n"))
    else giveUp (Bytes.ofString "invalid signal number or exit status: " ++ text)

def killUsage : Bytes :=
  Bytes.ofString ("Usage: kill [-s sigspec | -signum | -sigspec] [pid | job]... or\n" ++ "kill -l [exitstatus]")

/-- What the arguments of the command that sends signals ask for: a list of them, or one with its targets. -/
def killOptions (arguments : List Bytes) : Step (Option Signal × Bool × List Bytes) := do
  match arguments with
  | ('-' :: name) :: rest =>
    match signalOf? name with
    | some signal => return (some signal, false, rest)
    | none =>
      let (found, rest) ← options "ls:" arguments
      let signal ← match found.find? (·.1 = 's') with
        | none => pure none
        | some (_, name) =>
          match signalOf? name with
          | some signal => pure (some signal)
          | none => giveUp (Bytes.ofString "invalid signal number or name: " ++ name)
      return (signal, has 'l' found, rest)
  | _ => return (none, false, arguments)

/-- The process or the group that a text stands for. -/
def targetOf (text : Bytes) : Step Int := do
  match text with
  | '%' :: _ => return -(((← Jobs.find (some text)).processes.head?).elim 0 fun p => (p.1 : Int))
  | '-' :: rest => return -((← number rest) : Int)
  | _ => return ((← number text) : Int)

/-- Sends a signal. -/
def kill (arguments : List Bytes) : Step Unit := do
  if arguments.isEmpty then giveUp killUsage
  let (signal?, isList, targets) ← killOptions arguments
  if isList then
    if signal?.isSome then giveUp killUsage
    listSignals targets
  else
    if targets.isEmpty then giveUp killUsage
    setStatus 0
    for text in targets do
      let target ← targetOf text
      if !(← ask (.send target (signal?.getD .terminate))) then
        blame (Bytes.ofString "No such process\n")
        setStatus 1

/-- Keeps or shows what is to be done at signals. -/
def trap (arguments : List Bytes) : Step Unit := do
  setStatus 0
  match ← operands arguments with
  | [] =>
    let traps := (← get).traps.mergeSort fun a b => a.1 ≤ b.1
    print (traps.flatMap fun (signal, action) =>
      Bytes.ofString "trap -- " ++ Lookup.quoted action ++ Bytes.ofString (" " ++ Signal.name signal ++ "\n"))
  | action :: signals =>
    let isReset := signals.isEmpty || action = ['-'] || (Bytes.number? action).isSome
    let names := if signals.isEmpty || (Bytes.number? action).isSome then action :: signals else signals
    for name in names do
      match Signal.ofBytes? name with
      | some signal => Step.setTrap signal (if isReset then none else some action)
      | none =>
        complain (Bytes.ofString "trap: " ++ name ++ Bytes.ofString ": bad trap")
        setStatus 1
        return

/-! ### Jobs -/

/-- Shows jobs. Those that are over are forgotten then. -/
def showJobs (arguments : List Bytes) : Step Unit := do
  let (found, names) ← options "lp" arguments
  Jobs.reap
  let jobs := (← get).jobs
  let shown ← if names.isEmpty then pure jobs else names.mapM fun name => Jobs.find (some name)
  for job in shown do
    if (found.getLast?).any (·.1 = 'p') then
      print (Bytes.decimal ((job.processes.head?).elim 0 Prod.fst) ++ ['\n'])
    else
      print (Jobs.describe (← get).jobs (has 'l' found) job)
      if job.isDone then Jobs.drop job.number
  setStatus 0

/-- Looks for a job that can be brought to the front, of which there are none. -/
def resumeJob (arguments : List Bytes) : Step Unit := do
  let names ← operands arguments
  let _ ← Jobs.find names.head?
  giveUp (Bytes.ofString "job " ++ (names.headD (Bytes.ofString "(null)")) ++
    Bytes.ofString " not created under job control")

/-! ### Limits -/

/-- What a limit is called, and the size of its unit. -/
def limitNames : List (Char × String) :=
  [('t', "time(seconds)"), ('f', "file(blocks)"), ('d', "data(kbytes)"), ('s', "stack(kbytes)"),
    ('c', "coredump(blocks)"), ('m', "memory(kbytes)"), ('l', "locked memory(kbytes)"), ('p', "process"),
    ('n', "nofiles"), ('v', "vmemory(kbytes)"), ('w', "locks"), ('r', "rtprio")]

/-- A limit in words. -/
def limitText (amount : Option Nat) : Bytes := amount.elim (Bytes.ofString "unlimited") Bytes.decimal

/-- Shows or sets limits of what processes may use. -/
def limit (arguments : List Bytes) : Step Unit := do
  let (found, operands) ← options "HSatfdscmlpnvwr" arguments
  let isHard := (found.filter fun o => o.1 = 'H' || o.1 = 'S').getLast?.map (·.1 == 'H')
  let letter := (((found.filter fun o => !"HSa".toList.contains o.1).getLast?).map Prod.fst).getD 'f'
  let limits ← ask .limits
  let shown (l : Limit) : Bytes := limitText (if isHard == some true then l.hard else l.soft)
  match operands with
  | [] =>
    if has 'a' found then
      print (limits.flatMap fun l =>
        let name := Bytes.ofString ((limitNames.lookup l.letter).getD "")
        name ++ List.replicate (20 - name.length) ' ' ++ ' ' :: shown l ++ ['\n'])
    else print ((limits.filter (·.letter = letter)).flatMap fun l => shown l ++ ['\n'])
    setStatus 0
  | text :: rest =>
    if has 'a' found || !rest.isEmpty then giveUp (Bytes.ofString "too many arguments")
    let amount ← if text = Bytes.ofString "unlimited" then pure none
      else if text.isEmpty || !text.all Char.isDigit then giveUp (Bytes.ofString "bad number")
      else pure (some (Nat.ofDigitChars 10 text 0))
    for l in limits do
      if l.letter = letter then
        let changed : Limit := { l with
          soft := if isHard == some true then l.soft else amount
          hard := if isHard == some false then l.hard else amount }
        let isOver (a b : Option Nat) : Bool := match a, b with
          | _, none => false
          | none, some _ => true
          | some m, some n => n < m
        if isOver changed.soft changed.hard then
          giveUp (Bytes.ofString "error setting limit (Invalid argument)")
        if isOver changed.hard l.hard then
          giveUp (Bytes.ofString "error setting limit (Operation not permitted)")
        ask (.setLimits (limits.map fun other => if other.letter = letter then changed else other))
    setStatus 0

end Stopwatch.Shell.Builtin
