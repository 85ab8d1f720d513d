import Stopwatch.Proofs.Page.Marks

/-!
# The outline of a report page

The outline of a page is the sequence of its tags with the ids of the charts left out. It
does not depend on any text that the report carries: a report and its *mask*, in which
every text is empty, have pages of one outline.

- `Report.mask`: the report without its texts;
- `outline_pieces`: the outline of a page is that of the mask;
- `Report.render_marks_and_tags`: what the texts of a report cannot change about its page.
-/

namespace Stopwatch

/-! ### Reports without their texts -/

def Environment.mask (e : Environment) : Environment :=
  { e with
    benchVersion := ""
    profile := ""
    os := ""
    arch := ""
    commit := e.commit.map fun _ => ""
    candidateVersion := e.candidateVersion.map fun _ => ""
    baselineVersion := e.baselineVersion.map fun _ => "" }

namespace Report

def Heading.mask (h : Heading) : Heading := ⟨"", "", "", "", h.environment.map Environment.mask⟩

def Row.mask (r : Row) : Row := { r with name := "" }

def Series.mask (s : Series) : Series := { s with label := "" }

def Chart.mask (c : Chart) : Chart := ⟨"", c.labels.map fun _ => "", c.series.map Series.mask⟩

def Section.mask (s : Section) : Section := ⟨"", s.rows.map Row.mask, s.chart.mask⟩

def FailedRun.mask (_ : FailedRun) : FailedRun := ⟨"", "", ""⟩

/-- The report with every text empty. Its figures, its verdicts and how many there are of
everything stay. -/
def mask (report : Report) : Report :=
  { report with
    heading := report.heading.mask
    sections := report.sections.map Section.mask
    failedRuns := report.failedRuns.map FailedRun.mask }

end Report

namespace Page

open Markup Markup.Piece

/-! ### Outlines -/

/-- How the tag of a chart starts. -/
def canvasStart : List Char := "<canvas id=\"".toList

/-- The text of a tag; the id of a chart is left out. -/
def forgetId (tag : List Char) : List Char :=
  if canvasStart.isPrefixOf tag then
    canvasStart ++ (tag.drop canvasStart.length).dropWhile (· != '"')
  else tag

/-- The tags of some pieces without the ids of charts. -/
def outline (page : List Piece) : List (List Char) :=
  (page.filter isTag).map fun p => forgetId p.chars

@[simp] theorem outline_nil : outline [] = [] := rfl

@[simp] theorem outline_start (name : String) (attributes : List (String × String))
    (page : List Piece) :
    outline (start name attributes :: page) =
      forgetId (start name attributes).chars :: outline page := rfl

@[simp] theorem outline_stop (name : String) (page : List Piece) :
    outline (stop name :: page) = forgetId (stop name).chars :: outline page := rfl

@[simp] theorem outline_text (s : String) (page : List Piece) :
    outline (text s :: page) = outline page := rfl

@[simp] theorem outline_fixed (s : String) (page : List Piece) :
    outline (fixed s :: page) = outline page := rfl

@[simp] theorem outline_payload (value : Json.Value) (page : List Piece) :
    outline (payload value :: page) = outline page := rfl

@[simp] theorem outline_append (page page' : List Piece) :
    outline (page ++ page') = outline page ++ outline page' := by
  simp only [outline, List.filter_append, List.map_append]

theorem outline_flatMap {α : Type} (f : α → List Piece) (l : List α) :
    outline (l.flatMap f) = l.flatMap fun a => outline (f a) := by
  induction l with
  | nil => rfl
  | cons a l ih => rw [List.flatMap_cons, List.flatMap_cons, outline_append, ih]

theorem canvasStart_eq :
    canvasStart = '<' :: "canvas".toList ++ (' ' :: "id".toList ++ ['=', '"']) := by
  decide

/-- The tag of a chart: its id stands between quotes. -/
theorem chars_canvas (id : String) (attributes : List (String × String)) :
    (start "canvas" (("id", id) :: attributes)).chars =
      canvasStart ++ (escape id.toList ++ '"' :: (attributes.flatMap attributeChars ++ ['>'])) := by
  rw [chars, List.flatMap_cons, attributeChars, canvasStart_eq]
  simp only [List.append_assoc, List.cons_append, List.nil_append]

/-- The id of a chart ends at its closing quote, so it is left out as a whole. -/
theorem forgetId_canvas (id : String) (attributes : List (String × String)) :
    forgetId (start "canvas" (("id", id) :: attributes)).chars =
      canvasStart ++ '"' :: (attributes.flatMap attributeChars ++ ['>']) := by
  -- the first quote after the id is the closing one
  have hquote : ∀ c ∈ escape id.toList, (c != '"') = true := by
    intro c hc
    rw [bne_iff_ne]
    rintro rfl
    exact quote_notMem_escape _ hc
  rw [chars_canvas, forgetId, if_pos (List.isPrefixOf_iff_prefix.mpr (List.prefix_append _ _)),
    List.drop_left, List.dropWhile_append_of_pos hquote, List.dropWhile_cons_of_neg (by decide)]

/-! ### No part of the page shows a text in its outline -/

theorem outline_paragraph {term term' description description' : List Piece}
    (hterm : outline term = outline term')
    (hdescription : outline description = outline description') :
    outline (paragraph term description) = outline (paragraph term' description') := by
  simp [paragraph, element, newLine, hterm, hdescription]

theorem outline_versionLine (label : String) (version : Option String) :
    outline (versionLine label version) =
      outline (versionLine "" (version.map fun _ => "")) := by
  cases version with
  | none => rfl
  | some v => exact outline_paragraph rfl rfl

theorem version_mask (environment : Option Environment) (version : Environment → Option String)
    (h : ∀ e : Environment, version e.mask = (version e).map fun _ => "") :
    (environment.map Environment.mask).bind version =
      (environment.bind version).map fun _ => "" := by
  cases environment with
  | none => rfl
  | some e => exact h e

theorem outline_summary (report : Report) :
    outline (summary report) = outline (summary report.mask) := by
  have hgenerated : outline (paragraph [fixed "Generated:"] [text report.heading.generatedAt]) =
      outline (paragraph [fixed "Generated:"] [text ""]) := outline_paragraph rfl rfl
  have hcandidate := outline_versionLine report.heading.candidateLabel
    (report.heading.environment.bind (·.candidateVersion))
  have hbaseline := outline_versionLine report.heading.baselineLabel
    (report.heading.environment.bind (·.baselineVersion))
  -- the mask keeps which versions there are
  rw [← version_mask _ _ fun _ => rfl] at hcandidate hbaseline
  unfold summary
  simp only [outline_append, classed, List.cons_append, outline_start, newLine, outline_fixed,
    hgenerated, hcandidate, hbaseline]
  rfl

theorem outline_chart (c : Report.Chart) : outline (chart c) = outline (chart c.mask) := by
  simp [chart, element, classed, newLine, forgetId_canvas]

theorem outline_row (hasComparison : Bool) (r : Report.Row) :
    outline (row hasComparison r) = outline (row hasComparison r.mask) := by
  simp [row, element, newLine, Report.Row.mask]

theorem outline_table (captions : List String) {body body' : List Piece}
    (h : outline body = outline body') :
    outline (table captions body) = outline (table captions body') := by
  simp [table, element, newLine, h]

theorem outline_section (hasComparison : Bool) (s : Report.Section) :
    outline («section» hasComparison s) = outline («section» hasComparison s.mask) := by
  have hrows : outline (s.rows.flatMap (row hasComparison)) =
      outline (s.mask.rows.flatMap (row hasComparison)) := by
    rw [outline_flatMap, outline_flatMap, Report.Section.mask, List.flatMap_map]
    exact congrArg (List.flatMap · s.rows) (funext fun r => outline_row hasComparison r)
  have htable := outline_table (columns hasComparison) hrows
  have hempty : s.mask.rows.isEmpty = s.rows.isEmpty := List.isEmpty_map
  unfold «section»
  rw [hempty]
  split
  · rfl
  · simp only [outline_append, classed, element, newLine, List.cons_append, List.nil_append,
      outline_start, outline_stop, outline_fixed, outline_text, htable, outline_chart s.chart]
    rfl

theorem outline_failedRow (r : Report.FailedRun) :
    outline (failedRow r) = outline (failedRow r.mask) := by
  simp [failedRow, element, classed, newLine]

theorem outline_failedRuns (runs : List Report.FailedRun) :
    outline (failedRuns runs) = outline (failedRuns (runs.map Report.FailedRun.mask)) := by
  have hrows : outline (runs.flatMap failedRow) =
      outline ((runs.map Report.FailedRun.mask).flatMap failedRow) := by
    rw [outline_flatMap, outline_flatMap, List.flatMap_map]
    exact congrArg (List.flatMap · runs) (funext outline_failedRow)
  have htable := outline_table ["Workload", "Runtime", "Error"] hrows
  unfold failedRuns
  rw [List.isEmpty_map]
  split
  · rfl
  · simp only [outline_append, classed, element, newLine, List.cons_append, List.nil_append,
      outline_start, outline_stop, outline_fixed, htable]

theorem outline_footer (environment : Option Environment) :
    outline (footer environment) = outline (footer (environment.map Environment.mask)) := by
  have hplace :
      outline (paragraph [fixed "Test Environment:"] [text (environmentLine environment)]) =
        outline (paragraph [fixed "Test Environment:"]
          [text (environmentLine (environment.map Environment.mask))]) :=
    outline_paragraph rfl rfl
  simp only [footer, classed, newLine, outline_append, List.cons_append, outline_start,
    outline_fixed, hplace]

theorem outline_head (title : String) : outline (head title) = outline (head "") := by
  simp only [head, element, newLine, outline_append, List.cons_append, outline_start,
    outline_stop, outline_fixed, outline_text]

theorem outline_container (report : Report) :
    outline (container report) = outline (container report.mask) := by
  have hsections : outline (report.sections.flatMap («section» report.hasComparison)) =
      outline (report.mask.sections.flatMap («section» report.mask.hasComparison)) := by
    rw [outline_flatMap, outline_flatMap, Report.mask, List.flatMap_map]
    exact congrArg (List.flatMap · report.sections)
      (funext fun s => outline_section report.hasComparison s)
  unfold container
  simp only [classed, element, newLine, outline_append, List.cons_append, outline_start,
    outline_stop, outline_fixed, outline_text, outline_summary report, hsections,
    outline_failedRuns report.failedRuns, outline_footer report.heading.environment]
  rfl

/-- The outline of a page is that of the mask of its report. -/
theorem outline_pieces (report : Report) :
    outline (pieces report) = outline (pieces report.mask) := by
  unfold pieces
  simp only [element, newLine, outline_append, List.cons_append, outline_start, outline_stop,
    outline_fixed, outline_head report.heading.title, outline_head report.mask.heading.title,
    outline_container report]

/-! ### What the texts of a report cannot change -/

theorem occurrences_render (report : Report) (mark : Mark) :
    occurrences mark.pattern report.render.toList = marks report mark := by
  rw [Report.render, render, String.toList_ofList, ← hits_pieces]
  exact occurrences_page _ (pieces_sound report)

theorem tags_render (report : Report) :
    (tags report.render.toList).map forgetId = outline (pieces report) := by
  rw [Report.render, render, String.toList_ofList, tags_page (pieces_sound report),
    List.map_map]
  rfl

end Page

open Page Markup in
/-- **No text of a report can add, end or change a tag of its page**: the marks of the
page are as many as the report has sections, rows, failed runs and contrasts, and a report
that differs in its texts only has a page with the same tags, up to the ids of the charts.
No two occurrences of one of the six patterns overlap, so `occurrences` counts them as a
search for them does. -/
theorem Report.render_marks_and_tags (report : Report) :
    occurrences "</script>".toList report.render.toList = 2 + report.sections.countP shown ∧
      occurrences "<canvas".toList report.render.toList = report.sections.countP shown ∧
      occurrences "<tr><td>".toList report.render.toList =
        (report.sections.map fun s => s.rows.length).sum ∧
      occurrences "<tr class=\"error-row\">".toList report.render.toList =
        report.failedRuns.length ∧
      occurrences "<div class=\"section\">".toList report.render.toList =
        report.sections.length + (if report.failedRuns.isEmpty then 0 else 1) ∧
      occurrences "<span class=\"badge badge-".toList report.render.toList =
        (if report.hasComparison then
          (report.sections.map fun s => s.rows.countP fun r => r.contrast.isSome).sum
        else 0) ∧
      ∀ other : Report, other.mask = report.mask →
        (tags other.render.toList).map forgetId = (tags report.render.toList).map forgetId := by
  refine ⟨?_, ?_, ?_, ?_, ?_, ?_, fun other h => ?_⟩
  · rw [show "</script>".toList = Mark.scriptEnd.pattern by decide]
    exact occurrences_render report .scriptEnd
  · rw [show "<canvas".toList = Mark.canvas.pattern by decide]
    exact occurrences_render report .canvas
  · rw [show "<tr><td>".toList = Mark.row.pattern by decide]
    exact occurrences_render report .row
  · rw [show "<tr class=\"error-row\">".toList = Mark.errorRow.pattern by decide]
    exact occurrences_render report .errorRow
  · rw [show "<div class=\"section\">".toList = Mark.section.pattern by decide]
    exact occurrences_render report .section
  · rw [show "<span class=\"badge badge-".toList = Mark.badge.pattern by decide]
    exact occurrences_render report .badge
  · rw [tags_render, tags_render, outline_pieces other, outline_pieces report, h]

/-- A report on one test and one failed run, with one text everywhere. -/
def Report.saying (s : String) : Report where
  heading := ⟨s, s, s, s, none⟩
  totals := ⟨1, 1, 1⟩
  hasComparison := true
  sections :=
    [⟨s, [⟨s, 1.0, 1.0, 1.0, 1.0, 0.0, some ⟨.faster, -50.0, 2.0⟩⟩],
      ⟨s, [s], [⟨s, [some 1.0]⟩]⟩⟩]
  failedRuns := [⟨s, s, s⟩]

open Page Markup in
theorem Report.render_marks_and_tags_hostile :
    (saying "</script><tr><td>\"'&").mask = (saying "calm").mask ∧
      (tags (saying "</script><tr><td>\"'&").render.toList).map forgetId =
        (tags (saying "calm").render.toList).map forgetId :=
  ⟨rfl, (render_marks_and_tags (saying "calm")).2.2.2.2.2.2
    (saying "</script><tr><td>\"'&") rfl⟩

end Stopwatch
