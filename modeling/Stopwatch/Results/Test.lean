import Stopwatch.Memory
import Stopwatch.Statistics

/-!
# Test results

A `TestResult` holds the samples of one timed workload with their statistics; a `ResultGroup` holds the
results of one category in the order in which they were measured.
-/

namespace Stopwatch

/-- The measurement of one workload. -/
structure TestResult where
  name : String
  iterations : Nat
  warmup : Nat
  stats : Summary
  samples : List Float
  memory : Option Memory.Delta
  opsPerSecond : Option Float
deriving DecidableEq, Inhabited

namespace TestResult

/-- The result of a list of samples. Without samples there is nothing to tell about memory. -/
def ofSamples (name : String) (warmup : Nat) (samples : List Float)
    (memory : Option Memory.Delta) : TestResult where
  name
  iterations := samples.length
  warmup
  stats := .ofSamples samples
  samples
  memory := if samples.isEmpty then none else memory
  opsPerSecond := none

/-- Nothing was measured. -/
def isEmpty (t : TestResult) : Bool := t.samples.isEmpty && t.iterations == 0

open Json in
def codec : Codec TestResult :=
  .record
    (.cons (.required "name" .text) <|
      .cons (.required "iterations" .count) <|
      .cons (.required "warmup" .count) <|
      .cons (.required "min" .float) <|
      .cons (.required "max" .float) <|
      .cons (.required "mean" .float) <|
      .cons (.required "median" .float) <|
      .cons (.required "stddev" .float) <|
      .cons (.required "total" .float) <|
      .cons (.list "samples" .float) <|
      .cons (.optional "memoryDelta" Memory.Delta.codec) <|
      .cons (.optional "opsPerSecond" .float) .nil)
    (fun t => (t.name, t.iterations, t.warmup, t.stats.min, t.stats.max, t.stats.mean, t.stats.median,
      t.stats.stddev, t.stats.total, t.samples, t.memory, t.opsPerSecond, ()))
    (fun (name, iterations, warmup, min, max, mean, median, stddev, total, samples, memory,
      opsPerSecond, _) =>
      ⟨name, iterations, warmup, ⟨min, max, mean, median, stddev, total⟩, samples, memory,
        opsPerSecond⟩)

end TestResult

/-- The results of one category. -/
structure ResultGroup where
  category : String
  tests : List TestResult
deriving DecidableEq, Inhabited

namespace ResultGroup

/-- All tests of some groups, in order. -/
def allTests (groups : List ResultGroup) : List TestResult := groups.flatMap ResultGroup.tests

/-- The number of tests in some groups. -/
def testCount (groups : List ResultGroup) : Nat := (allTests groups).length

open Json in
def codec : Codec ResultGroup :=
  .record
    (.cons (.required "category" .text) <| .cons (.list "tests" TestResult.codec) .nil)
    (fun g => (g.category, g.tests, ()))
    (fun (category, tests, _) => ⟨category, tests⟩)

end ResultGroup

end Stopwatch
