import Stopwatch.Engine.Run
import Stopwatch.Results.Process

/-!
# Batches

A batch runs workload files under two engines, one process at a time: for each file first all runs of the
candidate, then all runs of the baseline. A failed run is recorded and the batch goes on; only a halt ends
it.
-/

namespace Stopwatch

/-- How often and for how long engines are run. -/
structure RunSettings where
  /-- Runs of each engine on each file. -/
  repeats : Nat
  /-- Nanoseconds after which a process is killed. -/
  limit : Option Nat
deriving DecidableEq, Repr

namespace RunSettings

/-- One run without a limit. -/
def standard : RunSettings := ⟨1, none⟩

instance : Inhabited RunSettings := ⟨standard⟩

end RunSettings

structure Batch where
  candidate : Engine
  baseline : Engine
  settings : RunSettings
deriving DecidableEq, Repr, Inhabited

namespace Batch

/-- A batch makes at least one run. -/
def make (candidate baseline : Engine) (settings : RunSettings) : Except Fault Batch :=
  if settings.repeats = 0 then .error (.config "repeat" "must be at least 1")
  else .ok ⟨candidate, baseline, settings⟩

variable {m : Type → Type} [Monad m]

/-- Looks for both engines, so that one that is missing is noticed before anything runs. -/
def preflight (host : Host m) (batch : Batch) : m (Except Fault (LocatedEngine × LocatedEngine)) := do
  match ← batch.candidate.locate host with
  | .error e => pure (.error e)
  | .ok candidate =>
    match ← batch.baseline.locate host with
    | .error e => pure (.error e)
    | .ok baseline => pure (.ok (candidate, baseline))

/-- The results of an action that is carried out so many times. -/
def times {α : Type} (action : m α) : Nat → m (List α)
  | 0 => pure []
  | n + 1 => do
    let first ← action
    let rest ← times action n
    pure (first :: rest)

/-- The results of an action on each item of a list, in order. -/
def each {α β : Type} (action : α → m β) : List α → m (List β)
  | [] => pure []
  | a :: as => do
    let first ← action a
    let rest ← each action as
    pure (first :: rest)

/-- The runs of both engines on one file. -/
def compareFile (host : Host m) (batch : Batch) (file : String) :
    ExceptT Halt m RunPair := do
  let candidate ← times (batch.candidate.run host batch.settings.limit file) batch.settings.repeats
  let baseline ← times (batch.baseline.run host batch.settings.limit file) batch.settings.repeats
  pure ⟨file, candidate, baseline⟩

/-- The runs of both engines on some files. -/
def compareAll (host : Host m) (batch : Batch) (files : List String) :
    ExceptT Halt m (List RunPair) :=
  each (compareFile host batch) files

/-- The runs of one located engine on some files; there is no candidate. -/
def baselineAll (host : Host m) (settings : RunSettings) (engine : LocatedEngine)
    (files : List String) : ExceptT Halt m (List RunPair) :=
  each (fun file => do
    let baseline ← times (engine.run host settings.limit file) settings.repeats
    pure ⟨file, [], baseline⟩) files

end Batch

end Stopwatch
