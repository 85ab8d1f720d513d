import Stopwatch.Path
import Stopwatch.Results.Test

/-!
# Runs of whole processes

A `ProcessRun` is the outcome of one invocation of a runtime on a workload file, and a `RunPair` holds
the runs of one file under both runtimes. Only the duration of a successful run is a timing; a failed
run carries the duration `-1`.
-/

namespace Stopwatch

/-- The outcome of one invocation. -/
structure ProcessRun where
  label : String
  file : String
  duration : Float
  stdout : String
  succeeded : Bool
  error : Option String
  fingerprint : Option String
deriving DecidableEq, Inhabited

namespace ProcessRun

/-- The duration of a run that did not succeed. -/
def failedDuration : Float := -1.0

/-- A run that could not be carried out. -/
def failure (label file error : String) : ProcessRun :=
  ⟨label, file, failedDuration, "", false, some error, none⟩

/-- The duration, if the run counts as a timing. -/
def sample? (r : ProcessRun) : Option Float :=
  if r.succeeded && decide (0.0 ≤ r.duration) then some r.duration else none

open Json in
def codec : Codec ProcessRun :=
  .record
    (.cons (.required "runtimeLabel" .text) <|
      .cons (.required "workloadFile" .text) <|
      .cons (.required "durationMs" .float) <|
      .cons (.required "stdout" .text) <|
      .cons (.required "succeeded" .flag) <|
      .cons (.optional "errorMessage" .text) <|
      .cons (.optional "workloadSha256" .text) .nil)
    (fun r => (r.label, r.file, r.duration, r.stdout, r.succeeded, r.error, r.fingerprint, ()))
    (fun (label, file, duration, stdout, succeeded, error, fingerprint, _) =>
      ⟨label, file, duration, stdout, succeeded, error, fingerprint⟩)

end ProcessRun

/-- The runs of one workload file under the two runtimes, in execution order. -/
structure RunPair where
  file : String
  candidate : List ProcessRun
  baseline : List ProcessRun
deriving DecidableEq, Inhabited

namespace RunPair

/-- The category of whole-process timings. -/
def category : String := "Process Runs"

/-- The name of the test made from this file: its last path component. -/
def testName (p : RunPair) : String := (Path.fileName? p.file).getD p.file

/-- All runs, candidate side first. -/
def runs (p : RunPair) : List ProcessRun := p.candidate ++ p.baseline

/-- No run failed. -/
def allSucceeded (p : RunPair) : Bool := p.runs.all ProcessRun.succeeded

/-- The runs of one side as a test result, if one of them counts as a timing. -/
def reduce (name : String) (runs : List ProcessRun) : Option TestResult :=
  let samples := runs.filterMap ProcessRun.sample?
  if samples.isEmpty then none else some (.ofSamples name 0 samples none)

def candidateResult? (p : RunPair) : Option TestResult := reduce p.testName p.candidate

def baselineResult? (p : RunPair) : Option TestResult := reduce p.testName p.baseline

/-- The candidate timings of some pairs, one test per file with a timing. -/
def candidateGroup (pairs : List RunPair) : ResultGroup :=
  ⟨category, pairs.filterMap candidateResult?⟩

/-- The baseline timings of some pairs, one test per file with a timing. -/
def baselineGroup (pairs : List RunPair) : ResultGroup :=
  ⟨category, pairs.filterMap baselineResult?⟩

open Json in
def codec : Codec RunPair :=
  .record
    (.cons (.required "workloadFile" .text) <|
      .cons (.required "candidate" (.list ProcessRun.codec)) <|
      .cons (.required "baseline" (.list ProcessRun.codec)) .nil)
    (fun p => (p.file, p.candidate, p.baseline, ()))
    (fun (file, candidate, baseline, _) => ⟨file, candidate, baseline⟩)

end RunPair

end Stopwatch
