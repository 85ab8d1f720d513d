import Stopwatch.Report.Basic

/-!
# Reports as JSON
-/

namespace Stopwatch.Report

open Json

def Heading.codec : Codec Heading :=
  .record
    (.cons (.required "title" .text) <|
      .cons (.required "generatedAt" .text) <|
      .cons (.required "candidateLabel" .text) <|
      .cons (.required "baselineLabel" .text) <|
      .cons (.nullable "run" Environment.codec) .nil)
    (fun h => (h.title, h.generatedAt, h.candidateLabel, h.baselineLabel, h.environment, ()))
    (fun (title, generatedAt, candidateLabel, baselineLabel, environment, _) =>
      ⟨title, generatedAt, candidateLabel, baselineLabel, environment⟩)

def Totals.codec : Codec Totals :=
  .record
    (.cons (.required "totalCategories" .count) <|
      .cons (.required "totalTests" .count) <|
      .cons (.required "comparedTests" .count) .nil)
    (fun t => (t.categories, t.tests, t.compared, ()))
    (fun (categories, tests, compared, _) => ⟨categories, tests, compared⟩)

def Contrast.codec : Codec Contrast :=
  .record
    (.cons (.required "classification" Verdict.codec) <|
      .cons (.required "percentDiff" .float) <|
      .cons (.required "baselineMean" .float) .nil)
    (fun c => (c.verdict, c.percentDiff, c.baselineMean, ()))
    (fun (verdict, percentDiff, baselineMean, _) => ⟨verdict, percentDiff, baselineMean⟩)

def Row.codec : Codec Row :=
  .record
    (.cons (.required "name" .text) <|
      .cons (.required "mean" .float) <|
      .cons (.required "median" .float) <|
      .cons (.required "min" .float) <|
      .cons (.required "max" .float) <|
      .cons (.required "stddev" .float) <|
      .cons (.nullable "comparison" Contrast.codec) .nil)
    (fun r => (r.name, r.mean, r.median, r.min, r.max, r.stddev, r.contrast, ()))
    (fun (name, mean, median, min, max, stddev, contrast, _) =>
      ⟨name, mean, median, min, max, stddev, contrast⟩)

def Series.codec : Codec Series :=
  .record
    (.cons (.required "label" .text) <|
      .cons (.required "data" (.list (.nullable .float))) .nil)
    (fun s => (s.label, s.data, ()))
    (fun (label, data, _) => ⟨label, data⟩)

def Chart.codec : Codec Chart :=
  .record
    (.cons (.required "id" .text) <|
      .cons (.required "labels" (.list .text)) <|
      .cons (.required "series" (.list Series.codec)) .nil)
    (fun c => (c.id, c.labels, c.series, ()))
    (fun (id, labels, series, _) => ⟨id, labels, series⟩)

def Section.codec : Codec Section :=
  .record
    (.cons (.required "category" .text) <|
      .cons (.required "rows" (.list Row.codec)) <|
      .cons (.required "chart" Chart.codec) .nil)
    (fun s => (s.category, s.rows, s.chart, ()))
    (fun (category, rows, chart, _) => ⟨category, rows, chart⟩)

def FailedRun.codec : Codec FailedRun :=
  .record
    (.cons (.required "workloadFile" .text) <|
      .cons (.required "runtimeLabel" .text) <|
      .cons (.required "error" .text) .nil)
    (fun r => (r.file, r.label, r.error, ()))
    (fun (file, label, error, _) => ⟨file, label, error⟩)

end Stopwatch.Report

namespace Stopwatch

open Json in
def Report.codec : Codec Report :=
  .record
    (.cons (.required "meta" Report.Heading.codec) <|
      .cons (.required "summary" Report.Totals.codec) <|
      .cons (.required "hasComparison" .flag) <|
      .cons (.required "sections" (.list Report.Section.codec)) <|
      .cons (.sparse "failedRuns" Report.FailedRun.codec) .nil)
    (fun r => (r.heading, r.totals, r.hasComparison, r.sections, r.failedRuns, ()))
    (fun (heading, totals, hasComparison, sections, failedRuns, _) =>
      ⟨heading, totals, hasComparison, sections, failedRuns⟩)

end Stopwatch
