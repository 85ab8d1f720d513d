import Stopwatch.Decimal.Fixed
import Stopwatch.Report.Assets
import Stopwatch.Report.Basic

/-!
# The report page

A report as a self-contained page. Everything that comes from the report is a piece of text, an
attribute value or a payload, so no text of a user can add, end or change a tag.
-/

namespace Stopwatch.Page

open Markup (Piece)
open Markup.Piece (element classed start stop fixed text payload newLine)

/-! ### Summary -/

/-- A paragraph with a term and its description. -/
def paragraph (term description : List Piece) : List Piece :=
  element "p" (element "strong" term ++ fixed " " :: description) ++ [newLine]

/-- The version of one runtime, if it is known. -/
def versionLine (label : String) : Option String → List Piece
  | none => []
  | some version => paragraph [text label, fixed " Version:"] [text version]

/-- A number with its caption. -/
def summaryItem (label : String) (value : Nat) : List Piece :=
  classed "div" "summary-item"
    (element "h4" [fixed label] ++ classed "div" "value" [fixed (toString value)]) ++ [newLine]

def summary (report : Report) : List Piece :=
  let heading := report.heading
  classed "div" "summary"
    (newLine :: element "h2" [fixed "Executive Summary"] ++ newLine ::
      paragraph [fixed "Generated:"] [text heading.generatedAt] ++
      versionLine heading.candidateLabel (heading.environment.bind (·.candidateVersion)) ++
      versionLine heading.baselineLabel (heading.environment.bind (·.baselineVersion)) ++
      classed "div" "summary-grid"
        (newLine :: summaryItem "Total Categories" report.totals.categories ++
          summaryItem "Total Tests" report.totals.tests ++
          if 0 < report.totals.compared then summaryItem "Compared Tests" report.totals.compared
          else []) ++
      [newLine]) ++
    [newLine]

/-! ### Charts -/

/-- The fill and border colours of a series by its index. -/
def colours (index : Nat) : String × String :=
  if index = 0 then ("rgba(52, 152, 219, 0.6)", "rgba(52, 152, 219, 1)")
  else ("rgba(46, 204, 113, 0.6)", "rgba(46, 204, 113, 1)")

open Json in
/-- The data of one series, as the drawing library takes them. -/
def dataset (index : Nat) (series : Report.Series) : Value :=
  .object [
    (some "label", .text series.label),
    (some "data", (Codec.list (.nullable .float)).encode series.data),
    (some "backgroundColor", .text (colours index).1),
    (some "borderColor", .text (colours index).2),
    (some "borderWidth", Codec.count.encode 1)]

open Json in
/-- The data of a chart, as the drawing library takes them. -/
def chartValue (chart : Report.Chart) : Value :=
  .object [
    (some "id", .text chart.id),
    (some "labels", (Codec.list .text).encode chart.labels),
    (some "datasets", .array (chart.series.mapIdx dataset))]

def chart (c : Report.Chart) : List Piece :=
  classed "div" "chart-container"
    (newLine :: element "h3" [fixed "Performance Comparison Chart"] ++ newLine ::
      start "canvas" [("id", c.id), ("width", "400"), ("height", "200")] :: stop "canvas" :: newLine ::
      start "script" [("type", "application/json"), ("class", "chart-data")] ::
      payload (chartValue c) :: stop "script" :: [newLine]) ++
    [newLine]

/-! ### Sections -/

/-- The captions of the columns of a section. -/
def columns (hasComparison : Bool) : List String :=
  ["Test Name", "Mean (ms)", "Median (ms)", "Min (ms)", "Max (ms)", "Std Dev (ms)"] ++
    if hasComparison then ["Comparison"] else []

/-- The last cell of a row. -/
def contrastCell : Option Report.Contrast → List Piece
  | none => element "td" [fixed "-"]
  | some c =>
    let sign := if 0.0 < c.percentDiff then "+" else ""
    element "td"
      (classed "span" ("badge badge-" ++ c.verdict.name) [fixed c.verdict.title] ++
        start "br" [] ::
        element "small" [fixed (sign ++ Decimal.fixed 1 c.percentDiff ++ "%")])

/-- The line of one test. -/
def row (hasComparison : Bool) (r : Report.Row) : List Piece :=
  element "tr"
    (element "td" [text r.name] ++
      [r.mean, r.median, r.min, r.max, r.stddev].flatMap
        (fun x => element "td" [fixed (Decimal.fixed 3 x)]) ++
      if hasComparison then contrastCell r.contrast else []) ++
    [newLine]

/-- A table with a line of captions and some body lines. -/
def table (captions : List String) (body : List Piece) : List Piece :=
  element "table"
    (newLine :: element "thead"
        (newLine :: element "tr" (captions.flatMap fun c => element "th" [fixed c]) ++ [newLine]) ++
      newLine :: element "tbody" (newLine :: body) ++ [newLine]) ++
    [newLine]

/-- One category: its rows and its chart. -/
def «section» (hasComparison : Bool) (s : Report.Section) : List Piece :=
  classed "div" "section"
    (newLine :: element "h2" [text s.category] ++ newLine ::
      if s.rows.isEmpty then
        element "p" [fixed "No tests available for this category."] ++ [newLine]
      else table (columns hasComparison) (s.rows.flatMap (row hasComparison)) ++ chart s.chart) ++
    [newLine]

/-! ### Failed runs -/

/-- The line of one failed run. -/
def failedRow (r : Report.FailedRun) : List Piece :=
  classed "tr" "error-row"
    (element "td" [text r.file] ++ element "td" [text r.label] ++ element "td" [text r.error]) ++
    [newLine]

/-- The table of failed runs, if there are any. -/
def failedRuns (runs : List Report.FailedRun) : List Piece :=
  if runs.isEmpty then []
  else
    classed "div" "section"
      (newLine :: element "h2" [fixed "Failed Runs"] ++ newLine ::
        table ["Workload", "Runtime", "Error"] (runs.flatMap failedRow)) ++
      [newLine]

/-! ### Footer -/

/-- The environment in one line. -/
def environmentLine : Option Environment → String
  | none => "Unknown"
  | some e =>
    "Platform: " ++ e.os ++ ", Architecture: " ++ e.arch ++ ", CPUs: " ++ toString e.cpuCount ++
      ", Profile: " ++ e.profile ++ e.commit.elim "" (", Commit: " ++ ·)

/-- How the figures were obtained. -/
def methodology : String :=
  "Each workload runs untimed warmup iterations, then timed iterations. Results show mean execution " ++
    "time in milliseconds unless otherwise specified."

def footer (environment : Option Environment) : List Piece :=
  classed "div" "footer"
    (newLine :: paragraph [fixed "Test Environment:"] [text (environmentLine environment)] ++
      paragraph [fixed "Methodology:"] [fixed methodology]) ++
    [newLine]

/-! ### The page -/

def head (title : String) : List Piece :=
  element "head"
    (newLine :: start "meta" [("charset", "utf-8")] :: newLine ::
      start "meta" [("name", "viewport"), ("content", "width=device-width,initial-scale=1")] ::
      newLine :: element "title" [text title] ++ newLine ::
      start "script" [("src", chartLibrary)] :: stop "script" :: newLine ::
      element "style" [newLine, fixed style] ++ [newLine]) ++
    [newLine]

def container (report : Report) : List Piece :=
  classed "div" "container"
    (newLine :: element "h1" [text report.heading.title] ++ newLine ::
      summary report ++
      report.sections.flatMap («section» report.hasComparison) ++
      failedRuns report.failedRuns ++
      footer report.heading.environment) ++
    [newLine]

/-- The pieces of the page. -/
def pieces (report : Report) : List Piece :=
  start "!DOCTYPE html" [] :: newLine ::
    start "html" [("lang", "en")] :: newLine ::
    head report.heading.title ++
    element "body"
      (newLine :: container report ++ element "script" [newLine, fixed script] ++ [newLine]) ++
    newLine :: stop "html" :: [newLine]

end Stopwatch.Page

/-- The page of a report. -/
def Stopwatch.Report.render (report : Stopwatch.Report) : String :=
  Stopwatch.Markup.render (Stopwatch.Page.pieces report)
