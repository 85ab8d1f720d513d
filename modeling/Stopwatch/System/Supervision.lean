import Stopwatch.Host
import Stopwatch.System.Loader
import Stopwatch.System.Schedule

/-!
# Supervising a process

The start of a program on a machine, and what whoever starts it sees: how it ended, how long it took, and what it
wrote. If it takes too long it is killed with its group, by the program that sends signals and then by itself. What it
writes is read until nothing holds the pipe any more; with a time limit, a pipe that a stray process holds longer is
given up, and with it all that has come out of it.
-/

namespace Stopwatch.System

namespace Machine

/-- How long after the time limit a pipe is waited for. -/
def grace : Nat := 250 * Span.millisecond

/-- How long it takes at most to notice that a process has ended, or that its time is over. -/
def notice : Nat := Span.millisecond

/-- Lets processes go on until something holds, or up to a time. -/
def runTo (limit : Option Nat) (isOver : Machine → Bool) : Service Unit := modify fun m => m.run limit isOver

/-- How a process ended, if it has. -/
def ending? (m : Machine) (pid : Nat) : Option Ending := (m.process? pid).bind Process.ending

/-- Waits for the end of a process. -/
def waitFor (pid : Nat) : Service Unit := runTo none fun m => (m.ending? pid).isSome

/-- Kills a process and its group. The program that does it is looked for where the environment says; if there is none,
only the process itself is killed. -/
def killTree (environment : List (Bytes × Bytes)) (directory : Location) (pid : Nat) : Service Unit := do
  let name : Bytes := "kill".toList
  let arguments := ["-KILL".toList, ['-', '-'], '-' :: Bytes.decimal pid]
  let v : View := ⟨(← get).disk, directory⟩
  match Loader.search (Loader.load v environment · name arguments) environment name with
  | .error _ => pure ()
  | .ok image =>
    let killer ← launch (.execute image) directory false
      [(.device .null, true), (.device .null, false), (.device .null, false)]
    waitFor killer
    bury killer
  deliver pid .kill

/-- What comes out of a pipe until nothing holds it, or nothing if that takes too long. -/
def collect (deadline : Option Nat) (outlet : Nat) : Service ByteArray := do
  let now := (← get).now
  runTo (deadline.map fun deadline => max now deadline + grace) fun m => !m.isOutletHeld outlet
  let m ← get
  if m.isOutletHeld outlet then return .empty
  else return (m.outletText outlet).toByteArray

/-- Starts a program in a directory and waits for its end. -/
def supervise (image : Image) (environment : List (Bytes × Bytes)) (home directory : Location)
    (limit : Option Nat) : Service Finished := do
  let start := (← get).now
  let out ← newOutlet
  let err ← newOutlet
  let pid ← launch (.execute image) directory true
    [(.device .null, true), (.outlet out, false), (.outlet err, false)]
  let deadline := limit.map (start + ·)
  runTo (deadline.map (· + notice)) fun m => (m.ending? pid).isSome
  let timedOut := ((← get).ending? pid).isNone
  if timedOut then
    killTree environment home pid
    waitFor pid
  let m ← get
  let ending := (m.ending? pid).getD default
  let elapsed := m.now - start
  bury pid
  let stdout ← collect deadline out
  let stderr ← collect deadline err
  return {
    status := match ending with
      | .exited status => .code status
      | .killed _ => .signal
    timedOut, elapsed, stdout, stderr }

end Machine

end Stopwatch.System
