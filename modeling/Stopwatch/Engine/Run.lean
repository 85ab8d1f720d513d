import Stopwatch.Clock
import Stopwatch.Decimal.Fixed
import Stopwatch.Engine.Basic
import Stopwatch.Fingerprint
import Stopwatch.Span
import Stopwatch.Text.Blank
import Stopwatch.Text.Utf8

/-!
# Runs of engines

A run hands one workload file to an engine and waits for its end. Whatever goes wrong becomes part of the
record of the run: an engine that is missing or cannot be started, an exit status other than zero, a
signal, a time limit that is over. Only a limit that the clock cannot show ends more than the run, and only
once a process has been started under it.

- `Finished.error?` and `Finished.toRun`: the record of a process that has ended;
- `Engine.run`: a run, from looking for the engine to its record;
- `LocatedEngine.version`: what an engine says when it is asked for its version.
-/

namespace Stopwatch

namespace Finished

/-- How many lines of error output a failure quotes. -/
def quotedLines : Nat := 5

/-- The last lines of an error output that are not blank, on one line. -/
def lastLines (count : Nat) (stderr : String) : String :=
  let lines := (Text.lines stderr.toList).filter fun l => !(Text.trimChars l).isEmpty
  " | ".intercalate ((lines.drop (lines.length - count)).map String.ofList)

/-- How a process ended, in words. -/
def statusText : ExitStatus → String
  | .code n => "exited with status " ++ toString n
  | .signal => "terminated by signal"

/-- The time that a process took, in milliseconds. -/
def duration (f : Finished) : Float := milliseconds f.elapsed

/-- What a process wrote, as text without blanks at its ends. -/
def output (f : Finished) : String := Text.trim (Text.decodeLossy f.stdout.toList)

/-- Why a process counts as failed, if it does. -/
def error? (f : Finished) : Option String :=
  if f.timedOut then
    some ("timed out after " ++ Decimal.fixed 0 f.duration ++ " ms; process killed")
  else if f.status.isSuccess then none
  else
    let quoted := lastLines quotedLines (Text.decodeLossy f.stderr.toList)
    some (statusText f.status ++ if quoted.isEmpty then "" else ": " ++ quoted)

/-- The record of a process that has ended. -/
def toRun (label file : String) (f : Finished) : ProcessRun :=
  match f.error? with
  | none => ⟨label, file, f.duration, f.output, true, none, none⟩
  | some e => { ProcessRun.failure label file e with stdout := f.output }

end Finished

variable {m : Type → Type} [Monad m]

/-- The fingerprint of a file that can be read. -/
def fingerprint? (host : Host m) (file : String) : m (Option String) := do
  match ← host.read file with
  | .ok bytes => pure (some (Fingerprint.ofBytes bytes))
  | .error _ => pure none

namespace LocatedEngine

/-- The start of an engine on a file: it gets the absolute path and runs in the directory of the file. -/
def invocation (engine : LocatedEngine) (target : String) (limit : Option Nat) : Invocation where
  program := engine.path
  arguments := [target]
  directory := if Path.isAbsolute target then Path.parent? target else none
  limit

/-- Why a process of an engine on a file has no end that is known. -/
def faultOf (engine : LocatedEngine) (file : String) : ProcessError → Fault
  | .notStarted e => .spawn engine.label file e
  | .notAwaited e => .io e

/-- The record of an attempt to start an engine on a file. -/
def recordOf (engine : LocatedEngine) (file : String) : Except ProcessError Finished → ProcessRun
  | .error e => .failure engine.label file (engine.faultOf file e).message
  | .ok finished => finished.toRun engine.label file

/-- Whether a process was started under a limit that cannot be kept. -/
def isHalted (start : Nat) (limit : Option Nat) : Except ProcessError Finished → Bool
  | .error _ => false
  | .ok _ => limit.any (Limit.isBeyondClock start)

/-- Runs an engine on a file. -/
def run (host : Host m) (engine : LocatedEngine) (limit : Option Nat) (file : String) :
    ExceptT Halt m ProcessRun := do
  let fingerprint ← (fingerprint? host file : m _)
  let target := (← host.canonical? file).getD file
  let start ← host.monotonic
  let outcome ← host.execute (engine.invocation target limit)
  if isHalted start limit outcome then throw .limitBeyondClock
  pure { engine.recordOf file outcome with fingerprint }

/-- How long an engine may take to tell its version. -/
def versionLimit : Nat := 2 * Span.second

/-- The first line of an output that is not blank, without the blanks at its ends. -/
def firstLine? (output : String) : Option String :=
  (((Text.lines output.toList).map Text.trimChars).find? (!·.isEmpty)).map String.ofList

/-- The version of an engine, if it tells one. -/
def version (host : Host m) (engine : LocatedEngine) : m (Option String) := do
  match ← host.execute ⟨engine.path, ["--version"], none, some versionLimit⟩ with
  | .error _ => pure none
  | .ok f =>
    if f.timedOut || !f.status.isSuccess then pure none
    else pure (firstLine? (Text.decodeLossy f.stdout.toList))

end LocatedEngine

namespace Engine

/-- Looks for an engine and runs it on a file. -/
def run (host : Host m) (engine : Engine) (limit : Option Nat) (file : String) :
    ExceptT Halt m ProcessRun := do
  match ← (engine.locate host : m _) with
  | .ok located => located.run host limit file
  | .error e => pure (.failure engine.label file e.message)

end Engine

end Stopwatch
