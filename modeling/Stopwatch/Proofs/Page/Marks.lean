import Mathlib.Algebra.GroupWithZero.Nat
import Stopwatch.Proofs.Page.Sound

/-!
# Counting the marks of a report page

Six patterns mark the parts of a report page: where a script ends, a chart, a row, a
failed run, a section and a badge. Each starts at a tag, and every other tag of the page
differs from each of them in some character, so their numbers add up over the parts of the
page whatever texts are in between.

- `Mark`: the patterns; `Adds`: how many marks a part of the page adds to what follows it;
- `plainTags`: the tags that add none;
- `adds_pieces`: the marks of a whole page.
-/

namespace Stopwatch.Page

open Markup Markup.Piece

/-- The patterns that mark the parts of a page. -/
inductive Mark where
  | scriptEnd
  | canvas
  | row
  | errorRow
  | «section»
  | badge
deriving DecidableEq, Repr

namespace Mark

/-- A mark after its opening bracket. -/
def inner : Mark → String
  | scriptEnd => "/script>"
  | canvas => "canvas"
  | row => "tr><td>"
  | errorRow => "tr class=\"error-row\">"
  | «section» => "div class=\"section\">"
  | badge => "span class=\"badge badge-"

def pattern (mark : Mark) : List Char := '<' :: mark.inner.toList

/-- All marks. -/
def all : List Mark := [scriptEnd, canvas, row, errorRow, «section», badge]

theorem mem_all (mark : Mark) : mark ∈ all := by
  cases mark <;> decide

end Mark

/-- A part of a page adds so many marks to those of what follows it. -/
def Adds (n : Mark → Nat) (part : List Piece) : Prop :=
  ∀ mark rest, hits mark.pattern (part ++ rest) = n mark + hits mark.pattern rest

theorem adds_nil : Adds (fun _ => 0) [] := fun _ _ => (Nat.zero_add _).symm

theorem Adds.append {n n' : Mark → Nat} {part part' : List Piece} (h : Adds n part)
    (h' : Adds n' part') : Adds (fun mark => n mark + n' mark) (part ++ part') := by
  intro mark rest
  rw [List.append_assoc, h, h', Nat.add_assoc]

theorem Adds.flatMap {α : Type} {n : α → Mark → Nat} {f : α → List Piece}
    (h : ∀ a, Adds (n a) (f a)) (l : List α) :
    Adds (fun mark => (l.map fun a => n a mark).sum) (l.flatMap f) := by
  induction l with
  | nil => exact adds_nil
  | cons a l ih => exact (h a).append ih

/-! ### What a tag starts -/

/-- Two texts differ at a position that both have. -/
def clash : List Char → List Char → Bool
  | p :: ps, c :: cs => p != c || clash ps cs
  | _, _ => false

theorem not_isPrefixOf_of_clash {pattern cs : List Char} (h : clash pattern cs = true)
    (rest : List Char) : pattern.isPrefixOf (cs ++ rest) = false := by
  induction pattern generalizing cs with
  | nil => cases h
  | cons p ps ih =>
    cases cs with
    | nil => cases h
    | cons c cs =>
      rw [List.cons_append, List.isPrefixOf]
      rw [clash, Bool.or_eq_true] at h
      cases h with
      | inl hne =>
        have hbeq : (p == c) = false := by simpa using hne
        rw [hbeq, Bool.false_and]
      | inr hclash => rw [ih hclash, Bool.and_false]

theorem isPrefixOf_append {pattern cs : List Char} (h : pattern.isPrefixOf cs = true)
    (rest : List Char) : pattern.isPrefixOf (cs ++ rest) = true := by
  rw [List.isPrefixOf_iff_prefix] at h ⊢
  exact h.trans (List.prefix_append cs rest)

/-- A text starts this mark and no other one, whatever follows it. -/
def starts (started : Option Mark) (known : List Char) : Bool :=
  Mark.all.all fun mark =>
    if started = some mark then mark.pattern.isPrefixOf known else clash mark.pattern known

theorem hits_tag {piece : Piece} {rest : List Piece} (htag : piece.isTag = true)
    {known tail : List Char} (hchars : (piece :: rest).flatMap chars = known ++ tail)
    {started : Option Mark} (hstarts : starts started known = true) (mark : Mark) :
    hits mark.pattern (piece :: rest) =
      (if started = some mark then 1 else 0) + hits mark.pattern rest := by
  have hmark := List.all_eq_true.mp hstarts mark (Mark.mem_all mark)
  rw [hits, htag, hchars, Bool.true_and]
  -- the known characters decide, whatever follows them
  split at hmark
  · rename_i heq
    rw [isPrefixOf_append hmark, if_pos rfl, if_pos heq]
  · rename_i hne
    rw [not_isPrefixOf_of_clash hmark, if_neg Bool.false_ne_true, if_neg hne]

theorem hits_mark {piece : Piece} {rest : List Piece} (htag : piece.isTag = true)
    {known tail : List Char} (hchars : (piece :: rest).flatMap chars = known ++ tail)
    (started : Mark) (hstarts : starts (some started) known = true) (mark : Mark) :
    hits mark.pattern (piece :: rest) =
      (if mark = started then 1 else 0) + hits mark.pattern rest := by
  rw [hits_tag htag hchars hstarts]
  simp only [Option.some.injEq, eq_comm]

theorem hits_plain {piece : Piece} {rest : List Piece} (htag : piece.isTag = true)
    {known tail : List Char} (hchars : (piece :: rest).flatMap chars = known ++ tail)
    (hstarts : starts none known = true) (mark : Mark) :
    hits mark.pattern (piece :: rest) = hits mark.pattern rest := by
  rw [hits_tag htag hchars hstarts, if_neg nofun, Nat.zero_add]

theorem hits_of_not_isTag {piece : Piece} (h : piece.isTag = false) (pattern : List Char)
    (rest : List Piece) : hits pattern (piece :: rest) = hits pattern rest := by
  rw [hits, h, Bool.false_and, if_neg Bool.false_ne_true, Nat.zero_add]

@[simp] theorem hits_fixed (s : String) (pattern : List Char) (rest : List Piece) :
    hits pattern (fixed s :: rest) = hits pattern rest := hits_of_not_isTag rfl pattern rest

@[simp] theorem hits_text (s : String) (pattern : List Char) (rest : List Piece) :
    hits pattern (text s :: rest) = hits pattern rest := hits_of_not_isTag rfl pattern rest

@[simp] theorem hits_payload (value : Json.Value) (pattern : List Char) (rest : List Piece) :
    hits pattern (payload value :: rest) = hits pattern rest :=
  hits_of_not_isTag rfl pattern rest

/-- The opening tags of the page that start no mark. -/
def plainTags : List (String × List (String × String)) :=
  ["!DOCTYPE html", "head", "title", "style", "body", "h1", "h2", "h3", "h4", "p", "strong",
      "small", "br", "table", "thead", "tbody", "th", "td"].map (·, []) ++
    ["summary", "summary-grid", "summary-item", "value", "chart-container", "container",
      "footer"].map (fun cls => ("div", [("class", cls)])) ++
    [("html", [("lang", "en")]), ("meta", [("charset", "utf-8")]),
      ("meta", [("name", "viewport"), ("content", "width=device-width,initial-scale=1")]),
      ("script", [("src", chartLibrary)]),
      ("script", [("type", "application/json"), ("class", "chart-data")]),
      ("script", [])]

/-- The elements whose closing tags start no mark. -/
def plainEnds : List String :=
  ["html", "head", "title", "style", "body", "h1", "h2", "h3", "h4", "p", "strong", "small",
    "div", "span", "table", "thead", "tbody", "tr", "th", "td", "canvas"]

theorem starts_plainTags : ∀ tag ∈ plainTags, starts none (start tag.1 tag.2).chars = true := by
  decide

theorem starts_plainEnds : ∀ name ∈ plainEnds, starts none (stop name).chars = true := by
  decide

@[simp] theorem hits_plain_start {name : String} {attributes : List (String × String)}
    (h : (name, attributes) ∈ plainTags) (mark : Mark) (rest : List Piece) :
    hits mark.pattern (start name attributes :: rest) = hits mark.pattern rest :=
  hits_plain rfl List.flatMap_cons (starts_plainTags _ h) mark

@[simp] theorem hits_plain_stop {name : String} (h : name ∈ plainEnds) (mark : Mark)
    (rest : List Piece) :
    hits mark.pattern (stop name :: rest) = hits mark.pattern rest :=
  hits_plain rfl List.flatMap_cons (starts_plainEnds _ h) mark

/-! ### Tags that start one -/

@[simp] theorem hits_stop_script (mark : Mark) (rest : List Piece) :
    hits mark.pattern (stop "script" :: rest) =
      (if mark = .scriptEnd then 1 else 0) + hits mark.pattern rest :=
  hits_mark rfl List.flatMap_cons _ (by decide) mark

@[simp] theorem hits_start_row (mark : Mark) (rest : List Piece) :
    hits mark.pattern (start "tr" [] :: start "td" [] :: rest) =
      (if mark = .row then 1 else 0) + hits mark.pattern rest := by
  have hchars : (start "tr" [] :: start "td" [] :: rest).flatMap chars =
      ((start "tr" []).chars ++ (start "td" []).chars) ++ rest.flatMap chars := by
    rw [List.flatMap_cons, List.flatMap_cons, List.append_assoc]
  rw [hits_mark rfl hchars .row (by decide), hits_plain_start (by decide)]

@[simp] theorem hits_start_captions (mark : Mark) (rest : List Piece) :
    hits mark.pattern (start "tr" [] :: start "th" [] :: rest) = hits mark.pattern rest := by
  have hchars : (start "tr" [] :: start "th" [] :: rest).flatMap chars =
      ((start "tr" []).chars ++ (start "th" []).chars) ++ rest.flatMap chars := by
    rw [List.flatMap_cons, List.flatMap_cons, List.append_assoc]
  rw [hits_plain rfl hchars (by decide), hits_plain_start (by decide)]

@[simp] theorem hits_start_canvas (id : String) (attributes : List (String × String))
    (mark : Mark) (rest : List Piece) :
    hits mark.pattern (start "canvas" (("id", id) :: attributes) :: rest) =
      (if mark = .canvas then 1 else 0) + hits mark.pattern rest := by
  have hchars : (start "canvas" (("id", id) :: attributes) :: rest).flatMap chars =
      ('<' :: "canvas".toList) ++
        ((("id", id) :: attributes).flatMap attributeChars ++
          (['>'] ++ rest.flatMap chars)) := by
    rw [List.flatMap_cons, chars, List.append_assoc, List.append_assoc]
  exact hits_mark rfl hchars _ (by decide) mark

@[simp] theorem hits_start_errorRow (mark : Mark) (rest : List Piece) :
    hits mark.pattern (start "tr" [("class", "error-row")] :: rest) =
      (if mark = .errorRow then 1 else 0) + hits mark.pattern rest :=
  hits_mark rfl List.flatMap_cons _ (by decide) mark

@[simp] theorem hits_start_section (mark : Mark) (rest : List Piece) :
    hits mark.pattern (start "div" [("class", "section")] :: rest) =
      (if mark = .section then 1 else 0) + hits mark.pattern rest :=
  hits_mark rfl List.flatMap_cons _ (by decide) mark

@[simp] theorem hits_start_badge (verdict : Verdict) (mark : Mark) (rest : List Piece) :
    hits mark.pattern (start "span" [("class", "badge badge-" ++ verdict.name)] :: rest) =
      (if mark = .badge then 1 else 0) + hits mark.pattern rest := by
  cases verdict <;> exact hits_mark rfl List.flatMap_cons _ (by decide) mark

/-! ### The marks of each part -/

theorem adds_paragraph {term description : List Piece} (hterm : Adds (fun _ => 0) term)
    (hdescription : Adds (fun _ => 0) description) :
    Adds (fun _ => 0) (paragraph term description) := by
  intro mark rest
  simp (disch := decide) [paragraph, element, newLine, hterm mark, hdescription mark]

theorem adds_text (s : String) : Adds (fun _ => 0) [text s] := by
  intro mark rest
  simp

theorem adds_fixed (s : String) : Adds (fun _ => 0) [fixed s] := by
  intro mark rest
  simp

theorem adds_versionLine (label : String) (version : Option String) :
    Adds (fun _ => 0) (versionLine label version) := by
  cases version with
  | none => exact adds_nil
  | some v =>
    exact adds_paragraph ((adds_text label).append (adds_fixed " Version:")) (adds_text v)

theorem adds_summaryItem (label : String) (value : Nat) :
    Adds (fun _ => 0) (summaryItem label value) := by
  intro mark rest
  simp (disch := decide) [summaryItem, element, classed, newLine]

theorem adds_summary (report : Report) : Adds (fun _ => 0) (summary report) := by
  intro mark rest
  have hgenerated :=
    adds_paragraph (adds_fixed "Generated:") (adds_text report.heading.generatedAt)
  unfold summary
  split <;>
    simp (disch := decide) [element, classed, newLine, hgenerated mark,
      adds_versionLine _ _ mark, adds_summaryItem _ _ mark]

theorem adds_chart (c : Report.Chart) :
    Adds (fun mark => (if mark = .canvas then 1 else 0) + if mark = .scriptEnd then 1 else 0)
      (chart c) := by
  intro mark rest
  simp (disch := decide) [chart, element, classed, newLine, Nat.add_assoc]

theorem adds_contrastCell (contrast : Option Report.Contrast) :
    Adds (fun mark => if contrast.isSome then if mark = .badge then 1 else 0 else 0)
      (contrastCell contrast) := by
  intro mark rest
  cases contrast <;> simp (disch := decide) [contrastCell, element, classed]

theorem adds_row (hasComparison : Bool) (r : Report.Row) :
    Adds (fun mark => (if mark = .row then 1 else 0) +
        if hasComparison && r.contrast.isSome then if mark = .badge then 1 else 0 else 0)
      (row hasComparison r) := by
  intro mark rest
  cases hasComparison <;>
    simp (disch := decide) [row, element, newLine, adds_contrastCell _ mark, Nat.add_assoc]

theorem adds_captions (captions : List String) :
    Adds (fun _ => 0) (captions.flatMap fun c => [start "th" [], fixed c, stop "th"]) := by
  have hcells :=
    Adds.flatMap (n := fun _ _ => 0) (f := fun c => [start "th" [], fixed c, stop "th"])
      (fun c mark rest => by simp (disch := decide)) captions
  simpa only [List.map_const', List.sum_replicate_nat, Nat.mul_zero] using hcells

theorem adds_table {n : Mark → Nat} {body : List Piece} (h : Adds n body) (caption : String)
    (captions : List String) : Adds n (table (caption :: captions) body) := by
  intro mark rest
  simp (disch := decide) [table, element, newLine, adds_captions captions mark, h mark]

/-- The marks of a section. -/
def sectionMarks (hasComparison : Bool) (s : Report.Section) : Mark → Nat
  | .scriptEnd => if s.rows.isEmpty then 0 else 1
  | .canvas => if s.rows.isEmpty then 0 else 1
  | .row => s.rows.length
  | .errorRow => 0
  | .section => 1
  | .badge => s.rows.countP fun r => hasComparison && r.contrast.isSome

theorem sum_rows (hasComparison : Bool) (rows : List Report.Row) (mark : Mark) :
    (rows.map fun r => (if mark = .row then 1 else 0) +
        if hasComparison && r.contrast.isSome then if mark = .badge then 1 else 0 else 0).sum =
      (if mark = .row then rows.length else 0) +
        if mark = .badge then rows.countP fun r => hasComparison && r.contrast.isSome
        else 0 := by
  induction rows with
  | nil => cases mark <;> rfl
  | cons r rows ih =>
    rw [List.map_cons, List.sum_cons, ih, List.length_cons, List.countP_cons]
    split_ifs <;> omega

theorem adds_section (hasComparison : Bool) (s : Report.Section) :
    Adds (sectionMarks hasComparison s) («section» hasComparison s) := by
  have hrows := Adds.flatMap (adds_row hasComparison) s.rows
  simp only [sum_rows] at hrows
  have htable : Adds _ (table (columns hasComparison) (s.rows.flatMap (row hasComparison))) :=
    adds_table hrows "Test Name" _
  intro mark rest
  unfold «section»
  split
  -- without rows there is neither a table nor a chart
  · rename_i hempty
    have hmarks : sectionMarks hasComparison s mark = if mark = .section then 1 else 0 := by
      have hnil := List.isEmpty_iff.mp hempty
      cases mark <;> simp [sectionMarks, hnil]
    simp (disch := decide) [element, classed, newLine, hmarks]
  · rename_i hsome
    have hmarks : sectionMarks hasComparison s mark =
        (if mark = .section then 1 else 0) + (((if mark = .row then s.rows.length else 0) +
          if mark = .badge then s.rows.countP fun r => hasComparison && r.contrast.isSome
          else 0) +
          ((if mark = .canvas then 1 else 0) + if mark = .scriptEnd then 1 else 0)) := by
      cases mark <;> simp [sectionMarks, hsome]
    simp (disch := decide) [element, classed, newLine, htable mark, adds_chart _ mark, hmarks,
      Nat.add_assoc]

theorem adds_failedRow (r : Report.FailedRun) :
    Adds (fun mark => if mark = .errorRow then 1 else 0) (failedRow r) := by
  intro mark rest
  simp (disch := decide) [failedRow, element, classed, newLine]

theorem adds_failedRuns (runs : List Report.FailedRun) :
    Adds (fun mark => (if mark = .errorRow then runs.length else 0) +
        if mark = .section then if runs.isEmpty then 0 else 1 else 0) (failedRuns runs) := by
  have hrows : Adds (fun mark => if mark = .errorRow then runs.length else 0)
      (runs.flatMap failedRow) := by
    intro mark rest
    have hsum := Adds.flatMap adds_failedRow runs mark rest
    simp only [List.map_const', List.sum_replicate_nat] at hsum
    rw [hsum]
    by_cases h : mark = .errorRow <;> simp [h]
  have htable := adds_table hrows "Workload" ["Runtime", "Error"]
  intro mark rest
  unfold failedRuns
  split
  · rename_i hempty
    simp [List.isEmpty_iff.mp hempty]
  · simp (disch := decide) [element, classed, newLine, htable mark, Nat.add_assoc,
      Nat.add_left_comm]

theorem adds_footer (environment : Option Environment) :
    Adds (fun _ => 0) (footer environment) := by
  have hplace :=
    adds_paragraph (adds_fixed "Test Environment:") (adds_text (environmentLine environment))
  have hmethod := adds_paragraph (adds_fixed "Methodology:") (adds_fixed methodology)
  intro mark rest
  simp (disch := decide) [footer, classed, newLine, hplace mark, hmethod mark]

theorem adds_head (title : String) :
    Adds (fun mark => if mark = .scriptEnd then 1 else 0) (head title) := by
  intro mark rest
  simp (disch := decide) [head, element, newLine]

theorem adds_container (report : Report) :
    Adds (fun mark =>
        (report.sections.map fun s => sectionMarks report.hasComparison s mark).sum +
        ((if mark = .errorRow then report.failedRuns.length else 0) +
          if mark = .section then if report.failedRuns.isEmpty then 0 else 1 else 0))
      (container report) := by
  have hsections := Adds.flatMap (adds_section report.hasComparison) report.sections
  intro mark rest
  simp (disch := decide) [container, element, classed, newLine, adds_summary report mark,
    hsections mark, adds_failedRuns _ mark, adds_footer _ mark, Nat.add_assoc]

/-- Whether a section has a table and a chart. -/
def shown (s : Report.Section) : Bool := !s.rows.isEmpty

/-- The marks of a page: one end of script for the drawing library and one for the script
of the page, and the marks of the sections and the failed runs. -/
def marks (report : Report) : Mark → Nat
  | .scriptEnd => 2 + report.sections.countP shown
  | .canvas => report.sections.countP shown
  | .row => (report.sections.map fun s => s.rows.length).sum
  | .errorRow => report.failedRuns.length
  | .section => report.sections.length + if report.failedRuns.isEmpty then 0 else 1
  | .badge =>
    if report.hasComparison then
      (report.sections.map fun s => s.rows.countP fun r => r.contrast.isSome).sum
    else 0

theorem sum_shown (sections : List Report.Section) :
    (sections.map fun s => if s.rows.isEmpty then 0 else 1).sum = sections.countP shown := by
  induction sections with
  | nil => rfl
  | cons s sections ih =>
    rw [List.map_cons, List.sum_cons, ih, List.countP_cons, shown, Nat.add_comm]
    cases s.rows.isEmpty <;> rfl

theorem sum_const (sections : List Report.Section) (n : Nat) :
    (sections.map fun _ => n).sum = sections.length * n := by
  rw [List.map_const', List.sum_replicate_nat]

theorem sum_sectionMarks (report : Report) (mark : Mark) :
    2 * (if mark = .scriptEnd then 1 else 0) +
        ((report.sections.map fun s => sectionMarks report.hasComparison s mark).sum +
          ((if mark = .errorRow then report.failedRuns.length else 0) +
            if mark = .section then if report.failedRuns.isEmpty then 0 else 1 else 0)) =
      marks report mark := by
  have hshown := sum_shown report.sections
  have hzero := sum_const report.sections 0
  have hone := sum_const report.sections 1
  rw [Nat.mul_zero] at hzero
  rw [Nat.mul_one] at hone
  cases mark with
  | scriptEnd => simpa [sectionMarks, marks] using hshown
  | canvas => simpa [sectionMarks, marks] using hshown
  | row => simp [sectionMarks, marks]
  | errorRow =>
    show 2 * 0 + ((report.sections.map fun _ => 0).sum + (report.failedRuns.length + 0)) = _
    rw [hzero, Nat.zero_add, Nat.zero_add]
    rfl
  | «section» =>
    show 2 * 0 + ((report.sections.map fun _ => 1).sum + (0 + _)) = _
    rw [hone, Nat.zero_add, Nat.zero_add]
    rfl
  | badge =>
    show 2 * 0 + ((report.sections.map fun s =>
      s.rows.countP fun r => report.hasComparison && r.contrast.isSome).sum + (0 + 0)) = _
    rw [Nat.zero_add, Nat.add_zero, marks]
    cases report.hasComparison with
    | true => rfl
    | false =>
      simp only [Bool.false_and, List.countP_false]
      exact hzero

theorem hits_pieces (report : Report) (mark : Mark) :
    hits mark.pattern (pieces report) = marks report mark := by
  have hend : hits mark.pattern [] = 0 := rfl
  have hmarks := sum_sectionMarks report mark
  have hcontainer := adds_container report mark
  dsimp only at hcontainer
  generalize (report.sections.map fun s => sectionMarks report.hasComparison s mark).sum +
    ((if mark = .errorRow then report.failedRuns.length else 0) +
      if mark = .section then if report.failedRuns.isEmpty then 0 else 1 else 0) =
        content at hmarks hcontainer
  -- around the content there are the scripts of the head and of the page
  have hpage : hits mark.pattern (pieces report) =
      (if mark = .scriptEnd then 1 else 0) + (content + if mark =
        .scriptEnd then 1 else 0) := by
    simp (disch := decide) [pieces, element, newLine, adds_head _ mark, hcontainer, hend]
  omega

end Stopwatch.Page
