import Stopwatch.Decimal.Fixed
import Stopwatch.Results.Process

/-!
# The tally of a batch of process runs

A `Tally` counts the workload files of a batch: those with a timing on both sides, who won each of them,
and why the others failed.
-/

namespace Stopwatch

structure Tally where
  total : Nat
  successful : Nat
  failed : Nat
  candidateWins : Nat
  baselineWins : Nat
  averageCandidate : Float
  averageBaseline : Float
  overallSpeedup : Float
  failures : List String
deriving DecidableEq, Inhabited

namespace Tally

/-- Why a file has no timing on both sides: the first error of its runs. -/
def failureReason (p : RunPair) : String :=
  (p.runs.findSome? ProcessRun.error).getD "execution failed"

/-- The line about a failed file. -/
def failure (p : RunPair) : String := p.file ++ ": " ++ failureReason p

/-- What was counted so far. -/
structure Count where
  successful : Nat
  candidateWins : Nat
  baselineWins : Nat
  candidateTotal : Float
  baselineTotal : Float
  failures : Array String

namespace Count

def zero : Count := ⟨0, 0, 0, 0.0, 0.0, #[]⟩

/-- Counts a file with a timing on both sides. The candidate wins it if it is faster; otherwise the baseline
does. -/
def addTimed (k : Count) (candidate baseline : Float) : Count :=
  let k :=
    { k with
      successful := k.successful + 1
      candidateTotal := k.candidateTotal + candidate
      baselineTotal := k.baselineTotal + baseline }
  if 1.0 < baseline / candidate then { k with candidateWins := k.candidateWins + 1 }
  else { k with baselineWins := k.baselineWins + 1 }

/-- Counts one file. -/
def add (k : Count) (p : RunPair) : Count :=
  match p.candidateResult?, p.baselineResult? with
  | some c, some b => k.addTimed c.stats.mean b.stats.mean
  | _, _ => { k with failures := k.failures.push (failure p) }

end Count

/-- The tally of some pairs. -/
def ofPairs (pairs : List RunPair) : Tally :=
  let k := pairs.foldl Count.add .zero
  let average (total : Float) : Float :=
    if k.successful = 0 then 0.0 else total / Float.ofNat k.successful
  { total := pairs.length
    successful := k.successful
    failed := pairs.length - k.successful
    candidateWins := k.candidateWins
    baselineWins := k.baselineWins
    averageCandidate := average k.candidateTotal
    averageBaseline := average k.baselineTotal
    overallSpeedup := if 0.0 < k.candidateTotal then k.baselineTotal / k.candidateTotal else 0.0
    failures := k.failures.toList }

/-- The tally in words. -/
def render (t : Tally) (candidate baseline : String) : String :=
  "Process comparison\n" ++
    "  Total workloads: " ++ toString t.total ++ "\n" ++
    "  Successful: " ++ toString t.successful ++ "\n" ++
    "  Failed: " ++ toString t.failed ++ "\n" ++
    (if t.successful = 0 then ""
    else
      "  " ++ candidate ++ " wins: " ++ toString t.candidateWins ++ "\n" ++
      "  " ++ baseline ++ " wins: " ++ toString t.baselineWins ++ "\n" ++
      "  Average " ++ candidate ++ " time: " ++ Decimal.fixed 2 t.averageCandidate ++ " ms\n" ++
      "  Average " ++ baseline ++ " time: " ++ Decimal.fixed 2 t.averageBaseline ++ " ms\n" ++
      "  Overall speedup: " ++ Decimal.fixed 2 t.overallSpeedup ++ "x\n") ++
    String.join (t.failures.map fun f => "  FAILED " ++ f ++ "\n")

open Json in
def codec : Codec Tally :=
  .record
    (.cons (.required "total" .count) <|
      .cons (.required "successful" .count) <|
      .cons (.required "failed" .count) <|
      .cons (.required "candidateWins" .count) <|
      .cons (.required "baselineWins" .count) <|
      .cons (.required "averageCandidateMs" .float) <|
      .cons (.required "averageBaselineMs" .float) <|
      .cons (.required "overallSpeedup" .float) <|
      .cons (.required "failures" (.list .text)) .nil)
    (fun t => (t.total, t.successful, t.failed, t.candidateWins, t.baselineWins, t.averageCandidate,
      t.averageBaseline, t.overallSpeedup, t.failures, ()))
    (fun (total, successful, failed, candidateWins, baselineWins, averageCandidate, averageBaseline,
      overallSpeedup, failures, _) =>
      ⟨total, successful, failed, candidateWins, baselineWins, averageCandidate, averageBaseline,
        overallSpeedup, failures⟩)

end Tally

end Stopwatch
