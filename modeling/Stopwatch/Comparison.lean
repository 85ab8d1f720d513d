import Stopwatch.Results.Test

/-!
# Comparing two sets of results

`Comparison.of` joins the tests of a candidate with those of a baseline by name. Names are looked up in
the whole baseline, whatever their category, and the last test of a name counts. Every candidate test
gives one record, in order.
-/

namespace Stopwatch

/-- One of the two parties of a comparison. -/
inductive Side where
  | candidate
  | baseline
deriving DecidableEq, Repr, Inhabited

namespace Side

def name : Side → String
  | candidate => "candidate"
  | baseline => "baseline"

/-- The faster side for a ratio of candidate time to baseline time; a tie goes to the baseline. -/
def faster (ratio : Float) : Side := if ratio < 1.0 then candidate else baseline

def codec : Json.Codec Side := .word name [candidate, baseline]

end Side

/-- How many times as fast the faster side is. -/
def speedupFactor (ratio : Float) : Float := if ratio < 1.0 then 1.0 / ratio else ratio

/-- The statistics of a test that a comparison shows. -/
structure Spread where
  mean : Float
  median : Float
  min : Float
  max : Float
  stddev : Float
deriving DecidableEq, Repr, Inhabited

namespace Spread

def ofSummary (s : Summary) : Spread := ⟨s.mean, s.median, s.min, s.max, s.stddev⟩

open Json in
def codec : Codec Spread :=
  .record
    (.cons (.required "mean" .float) <|
      .cons (.required "median" .float) <|
      .cons (.required "min" .float) <|
      .cons (.required "max" .float) <|
      .cons (.required "stddev" .float) .nil)
    (fun s => (s.mean, s.median, s.min, s.max, s.stddev, ()))
    (fun (mean, median, min, max, stddev, _) => ⟨mean, median, min, max, stddev⟩)

end Spread

namespace Comparison

/-- A candidate test and what is known of it in the baseline. -/
structure Record where
  name : String
  category : String
  candidate : Spread
  baseline : Option Spread
  ratio : Option Float
  percentDiff : Option Float
  faster : Option Side
  speedup : Option Float
deriving DecidableEq, Inhabited

namespace Record

/-- A test that the baseline lacks. -/
def alone (category : String) (test : TestResult) : Record :=
  ⟨test.name, category, .ofSummary test.stats, none, none, none, none, none⟩

/-- A test beside its counterpart. -/
def joined (category : String) (test base : TestResult) : Record :=
  let ratio := test.stats.mean / base.stats.mean
  { name := test.name
    category
    candidate := .ofSummary test.stats
    baseline := some (.ofSummary base.stats)
    ratio := some ratio
    percentDiff := some ((test.stats.mean - base.stats.mean) / base.stats.mean * 100.0)
    faster := some (.faster ratio)
    speedup := some (speedupFactor ratio) }

open Json in
def codec : Codec Record :=
  .record
    (.cons (.required "name" .text) <|
      .cons (.required "category" .text) <|
      .cons (.required "candidate" Spread.codec) <|
      .cons (.nullable "baseline" Spread.codec) <|
      .cons (.optional "ratio" .float) <|
      .cons (.optional "percentDiff" .float) <|
      .cons (.optional "fasterLabel" Side.codec) <|
      .cons (.optional "speedupFactor" .float) .nil)
    (fun r => (r.name, r.category, r.candidate, r.baseline, r.ratio, r.percentDiff, r.faster,
      r.speedup, ()))
    (fun (name, category, candidate, baseline, ratio, percentDiff, faster, speedup, _) =>
      ⟨name, category, candidate, baseline, ratio, percentDiff, faster, speedup⟩)

end Record

/-- How many tests there are on each side, and how many were found on both. -/
structure Totals where
  candidateTests : Nat
  baselineTests : Nat
  compared : Nat
deriving DecidableEq, Repr, Inhabited

open Json in
def Totals.codec : Codec Totals :=
  .record
    (.cons (.required "candidateTests" .count) <|
      .cons (.required "baselineTests" .count) <|
      .cons (.required "compared" .count) .nil)
    (fun t => (t.candidateTests, t.baselineTests, t.compared, ()))
    (fun (candidateTests, baselineTests, compared, _) => ⟨candidateTests, baselineTests, compared⟩)

/-- The tests of a baseline by name; a later test replaces an earlier one of its name. -/
abbrev Index := List (String × TestResult)

/-- Files a test under its name. -/
def Index.insert (index : Index) (test : TestResult) : Index :=
  (test.name, test) :: index.filter (·.1 != test.name)

/-- The index of all tests of a baseline. -/
def Index.ofGroups (groups : List ResultGroup) : Index :=
  (ResultGroup.allTests groups).foldl Index.insert []

/-- The records so far, and how many of them have a counterpart. -/
structure Join where
  records : Array Record
  compared : Nat

namespace Join

def empty : Join := ⟨#[], 0⟩

/-- Looks up one test and records it. -/
def add (index : Index) (category : String) (j : Join) (test : TestResult) : Join :=
  match index.lookup test.name with
  | some base => ⟨j.records.push (.joined category test base), j.compared + 1⟩
  | none => ⟨j.records.push (.alone category test), j.compared⟩

/-- Records the tests of a category. -/
def addGroup (index : Index) (j : Join) (group : ResultGroup) : Join :=
  group.tests.foldl (add index group.category) j

end Join

end Comparison

/-- The result of a comparison. -/
structure Comparison where
  totals : Comparison.Totals
  records : List Comparison.Record
deriving DecidableEq, Inhabited

namespace Comparison

/-- Compares with a baseline. Without one there is nothing to record. -/
def of (candidate : List ResultGroup) : Option (List ResultGroup) → Comparison
  | none => ⟨⟨ResultGroup.testCount candidate, 0, 0⟩, []⟩
  | some baseline =>
    let join := candidate.foldl (Join.addGroup (Index.ofGroups baseline)) .empty
    { totals :=
        { candidateTests := ResultGroup.testCount candidate
          baselineTests := ResultGroup.testCount baseline
          compared := join.compared }
      records := join.records.toList }

/-- The last record of a test. -/
def recordFor? (c : Comparison) (category name : String) : Option Record :=
  (c.records.filter fun r => r.category == category && r.name == name).getLast?

open Json in
def codec : Codec Comparison :=
  .record
    (.cons (.required "summary" Totals.codec) <|
      .cons (.required "records" (.list Record.codec)) .nil)
    (fun c => (c.totals, c.records, ()))
    (fun (totals, records, _) => ⟨totals, records⟩)

end Comparison

end Stopwatch
