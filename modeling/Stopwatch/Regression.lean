import Stopwatch.Results.Test

/-!
# Regressions

A test has regressed if its mean exceeds that of its counterpart in the baseline by more than a
threshold in percent. Only usable tests take part, on both sides: something was measured, and the mean
is positive. Names are looked up in the whole baseline, and the last usable test of a name counts.
-/

namespace Stopwatch

structure Regression where
  category : String
  name : String
  baselineMean : Float
  currentMean : Float
  percentChange : Float
deriving DecidableEq, Repr, Inhabited

namespace TestResult

/-- Something was measured and the mean is positive. -/
def isUsable (t : TestResult) : Bool := !t.isEmpty && decide (0.0 < t.stats.mean)

end TestResult

namespace Regression

/-- The threshold that is used unless another is given. -/
def defaultThreshold : Float := 10.0

/-- The usable means of a baseline by name; a later one replaces an earlier one. -/
def meansOf (baseline : List ResultGroup) : List (String × Float) :=
  ((ResultGroup.allTests baseline).filter TestResult.isUsable).foldl
    (fun means t => (t.name, t.stats.mean) :: means.filter (·.1 != t.name)) []

/-- The regression of one test of a category, if it has regressed. -/
def ofTest? (means : List (String × Float)) (factor : Float) (category : String) (t : TestResult) :
    Option Regression := do
  let base ← means.lookup t.name
  if base * factor < t.stats.mean then
    some ⟨category, t.name, base, t.stats.mean, (t.stats.mean - base) / base * 100.0⟩
  else none

/-- The regressions of the current tests against a baseline, in the order of the tests. -/
def detect (current baseline : List ResultGroup) (threshold : Float) : List Regression :=
  let means := meansOf baseline
  let factor := 1.0 + threshold / 100.0
  current.flatMap fun g =>
    (g.tests.filter TestResult.isUsable).filterMap (ofTest? means factor g.category)

open Json in
def codec : Codec Regression :=
  .record
    (.cons (.required "category" .text) <|
      .cons (.required "name" .text) <|
      .cons (.required "baselineMean" .float) <|
      .cons (.required "currentMean" .float) <|
      .cons (.required "percentChange" .float) .nil)
    (fun r => (r.category, r.name, r.baselineMean, r.currentMean, r.percentChange, ()))
    (fun (category, name, baselineMean, currentMean, percentChange, _) =>
      ⟨category, name, baselineMean, currentMean, percentChange⟩)

end Regression

end Stopwatch
