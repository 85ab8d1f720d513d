import Stopwatch.Report.Verdict
import Stopwatch.Results.Document

/-!
# Reports

A `Report` is the content of a report page: a heading, totals, one section per category with a row and a
chart point per test, and the runs that failed. `Report.build` makes it from results and a comparison;
it keeps the order of categories and tests.
-/

namespace Stopwatch

namespace Report

/-- What a report says about itself. The time is a given text, so a report depends on its inputs only. -/
structure Heading where
  title : String
  generatedAt : String
  candidateLabel : String
  baselineLabel : String
  environment : Option Environment
deriving DecidableEq, Inhabited

/-- The heading with the usual title and labels. -/
def Heading.at (generatedAt : String) : Heading :=
  ⟨"Runtime Performance Report", generatedAt, "Candidate", "Baseline", none⟩

structure Totals where
  categories : Nat
  tests : Nat
  compared : Nat
deriving DecidableEq, Repr, Inhabited

/-- How a row compares with the baseline. -/
structure Contrast where
  verdict : Verdict
  percentDiff : Float
  baselineMean : Float
deriving DecidableEq, Repr, Inhabited

structure Row where
  name : String
  mean : Float
  median : Float
  min : Float
  max : Float
  stddev : Float
  contrast : Option Contrast
deriving DecidableEq, Repr, Inhabited

structure Series where
  label : String
  data : List (Option Float)
deriving DecidableEq, Repr, Inhabited

structure Chart where
  id : String
  labels : List String
  series : List Series
deriving DecidableEq, Repr, Inhabited

structure Section where
  category : String
  rows : List Row
  chart : Chart
deriving DecidableEq, Repr, Inhabited

/-- A run that did not succeed. -/
structure FailedRun where
  file : String
  label : String
  error : String
deriving DecidableEq, Repr, Inhabited

end Report

structure Report where
  heading : Report.Heading
  totals : Report.Totals
  /-- There was a comparison, even an empty one. -/
  hasComparison : Bool
  sections : List Report.Section
  failedRuns : List Report.FailedRun
deriving DecidableEq, Inhabited

namespace Report

/-! ### Chart ids -/

/-- A slug that is being written. -/
structure Slug where
  chars : List Char
  /-- A dash was written for the present gap. -/
  dash : Bool
deriving DecidableEq, Repr, Inhabited

namespace Slug

/-- Nothing has been written. -/
def start : Slug := ⟨[], false⟩

/-- Letters and digits are written in lower case. Anything else is a gap, for which one dash is written
unless the slug would begin with it. -/
def push (s : Slug) (c : Char) : Slug :=
  if c.isAlphanum then ⟨s.chars ++ [c.toLower], false⟩
  else if !s.dash && !s.chars.isEmpty then ⟨s.chars ++ ['-'], true⟩
  else s

end Slug

/-- A text without the dashes at its end. -/
def trimDashes (cs : List Char) : List Char := (cs.reverse.dropWhile (· = '-')).reverse

/-- The letters and digits of a text in lower case, with one dash for each gap between them. -/
def slug (text : List Char) : List Char := trimDashes (text.foldl Slug.push Slug.start).chars

/-- The id of the chart of the section at an index. The index keeps ids apart when slugs agree. -/
def chartId (index : Nat) (category : String) : String :=
  String.ofList ("chart-".toList ++ Nat.toDigits 10 index ++ '-' :: slug category.toList)

/-! ### Building -/

/-- What a record says about the row of its test. -/
def Contrast.ofRecord? (r : Comparison.Record) : Option Contrast := do
  let baseline ← r.baseline
  let percentDiff ← r.percentDiff
  let faster ← r.faster
  return ⟨.of faster percentDiff, percentDiff, baseline.mean⟩

/-- The record of a test, if there is a comparison that has one. -/
def find? (comparison : Option Comparison) (category name : String) : Option Comparison.Record :=
  comparison.bind fun c => c.recordFor? category name

def Row.of (comparison : Option Comparison) (category : String) (t : TestResult) : Row where
  name := t.name
  mean := t.stats.mean
  median := t.stats.median
  min := t.stats.min
  max := t.stats.max
  stddev := t.stats.stddev
  contrast := (find? comparison category t.name).bind Contrast.ofRecord?

/-- The mean of the counterpart of a test. -/
def baselinePoint (comparison : Option Comparison) (category : String) (t : TestResult) :
    Option Float :=
  ((find? comparison category t.name).bind Comparison.Record.baseline).map Spread.mean

/-- The bars of a section: the candidate, and the baseline where it has any. -/
def Series.of (heading : Heading) (comparison : Option Comparison) (g : ResultGroup) : List Series :=
  let candidate : Series := ⟨heading.candidateLabel, g.tests.map (some ·.stats.mean)⟩
  let points := g.tests.map (baselinePoint comparison g.category)
  if points.any Option.isSome then [candidate, ⟨heading.baselineLabel, points⟩] else [candidate]

def Section.of (heading : Heading) (comparison : Option Comparison) (index : Nat)
    (g : ResultGroup) : Section where
  category := g.category
  rows := g.tests.map (Row.of comparison g.category)
  chart :=
    { id := chartId index g.category
      labels := g.tests.map TestResult.name
      series := Series.of heading comparison g }

/-- The report on some results and their comparison with a baseline, if there was one. -/
def build (groups : List ResultGroup) (comparison : Option Comparison) (heading : Heading) :
    Report where
  heading
  totals :=
    { categories := groups.length
      tests := ResultGroup.testCount groups
      compared := comparison.elim 0 (·.totals.compared) }
  hasComparison := comparison.isSome
  sections := groups.mapIdx (Section.of heading comparison)
  failedRuns := []

def FailedRun.of (r : ProcessRun) : FailedRun :=
  ⟨r.file, r.label, r.error.getD "unknown error"⟩

/-- Adds every run that did not succeed, of each pair the candidate runs first. -/
def withFailedRuns (report : Report) (pairs : List RunPair) : Report :=
  { report with
    failedRuns := ((pairs.flatMap RunPair.runs).filter fun r => !r.succeeded).map FailedRun.of }

/-- The results document that goes with a report. -/
def results (report : Report) (groups : List ResultGroup) (comparison : Option Comparison)
    (pairs : Option (List RunPair)) : Results :=
  ⟨report.heading.generatedAt, groups, comparison, pairs, report.heading.environment⟩

end Report

end Stopwatch
