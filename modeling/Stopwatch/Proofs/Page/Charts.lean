import Stopwatch.Proofs.Page.Outline
import Stopwatch.Proofs.Report.ChartIds

/-!
# The charts of a report page

Every chart of a page is a canvas with an id and, right behind it, a script element with the data of the
chart, which has the id too. A reader of the bare text finds just these, in the order of the sections, and
each id of the data is that of the canvas before it.

- `Markup.items`: the tags of a text with what is behind them;
- `Page.chartMarks`: the ids that a reader of a page finds;
- `Page.chartMarks_render`: those of a report with plain ids;
- `Report.chart_ids`: the ids of the sections of a report, and where they are on its page.
-/

namespace Stopwatch

/-! ### Reading tags with what is behind them -/

namespace Markup

/-- The part of a text before the next tag. -/
def beforeTag (cs : List Char) : List Char := cs.takeWhile (· != '<')

/-- The tags of a text, each with the text up to the next one; `opened` holds what was read of a tag that
is not closed yet, last character first. -/
def itemsFrom (opened : Option (List Char)) : List Char → List (List Char × List Char)
  | [] => []
  | c :: cs =>
    match opened with
    | none => itemsFrom (if c = '<' then some [] else none) cs
    | some seen =>
      if c = '>' then ('<' :: seen.reverse ++ ['>'], beforeTag cs) :: itemsFrom none cs
      else itemsFrom (some (c :: seen)) cs

/-- The tags of a text, each with the text up to the next one. -/
def items (cs : List Char) : List (List Char × List Char) := itemsFrom none cs

theorem beforeTag_append {cs : List Char} (h : Flat cs) (rest : List Char) :
    beforeTag (cs ++ '<' :: rest) = cs := by
  have hcs : ∀ c ∈ cs, (c != '<') = true := fun c hc => bne_iff_ne.mpr (h c hc).1
  rw [beforeTag, List.takeWhile_append_of_pos hcs, List.takeWhile_cons_of_neg (by decide),
    List.append_nil]

theorem items_append_of_flat {cs : List Char} (h : Flat cs) (rest : List Char) :
    items (cs ++ rest) = items rest := by
  unfold items
  induction cs with
  | nil => rfl
  | cons c cs ih =>
    obtain ⟨⟨hlt, _⟩, hcs⟩ := flat_cons.mp h
    rw [List.cons_append, itemsFrom, if_neg hlt]
    exact ih hcs

theorem itemsFrom_some_append {body : List Char} (h : Flat body) (seen rest : List Char) :
    itemsFrom (some seen) (body ++ '>' :: rest) =
      ('<' :: seen.reverse ++ body ++ ['>'], beforeTag rest) :: items rest := by
  induction body generalizing seen with
  | nil =>
    rw [List.nil_append, itemsFrom, if_pos rfl, List.append_nil]
    rfl
  | cons c body ih =>
    obtain ⟨⟨_, hgt⟩, hbody⟩ := flat_cons.mp h
    rw [List.cons_append, itemsFrom, if_neg hgt, ih hbody, List.reverse_cons]
    simp only [List.cons_append, List.append_assoc, List.nil_append]

theorem items_tag {body : List Char} (h : Flat body) (rest : List Char) :
    items ('<' :: body ++ '>' :: rest) = ('<' :: body ++ ['>'], beforeTag rest) :: items rest :=
  itemsFrom_some_append h [] rest

/-- The tag pieces of a page, each with the text up to the next tag. -/
def Piece.items : List Piece → List (List Char × List Char)
  | [] => []
  | piece :: rest =>
    if piece.isTag then (piece.chars, beforeTag (rest.flatMap chars)) :: items rest else items rest

/-- What a reader of the bare text finds is what the author put there. -/
theorem items_page {page : List Piece} (h : ∀ piece ∈ page, piece.Sound) :
    items (page.flatMap Piece.chars) = Piece.items page := by
  induction page with
  | nil => rfl
  | cons piece rest ih =>
    obtain ⟨hpiece, hrest⟩ := List.forall_mem_cons.mp h
    rw [List.flatMap_cons, Piece.items]
    cases htag : piece.isTag with
    | true =>
      obtain ⟨body, hbody, hchars⟩ := hpiece.chars_eq_tag htag
      rw [if_pos rfl, hchars, List.append_assoc, List.singleton_append, items_tag hbody, ih hrest]
    | false =>
      rw [if_neg Bool.false_ne_true, items_append_of_flat (hpiece.flat_chars htag), ih hrest]

end Markup

namespace Page

open Markup Markup.Piece

/-! ### Reading charts -/

/-- What a reader of a page finds of a chart: the id of a canvas or of chart data, if there is one where
it belongs. -/
inductive ChartMark where
  | canvas (id : Option (List Char))
  | data (id : Option (List Char))
deriving DecidableEq, Repr

/-- The text in quotes behind a given start. -/
def quotedAfter (start cs : List Char) : Option (List Char) :=
  if start.isPrefixOf cs then some ((cs.drop start.length).takeWhile (· != '"')) else none

/-- How every canvas starts. -/
def canvasName : List Char := "<canvas".toList

/-- The element that has the data of a chart. -/
def dataElement : String × List (String × String) :=
  ("script", [("type", "application/json"), ("class", "chart-data")])

/-- The tag in front of the data of a chart. -/
def dataTag : List Char := (start dataElement.1 dataElement.2).chars

/-- How the data of a chart starts. -/
def dataStart : List Char := "\x7b\"id\":\"".toList

/-- What a tag and the text behind it say of a chart. -/
def chartMark? (item : List Char × List Char) : Option ChartMark :=
  if canvasName.isPrefixOf item.1 then some (.canvas (quotedAfter canvasStart item.1))
  else if item.1 = dataTag then some (.data (quotedAfter dataStart item.2))
  else none

/-- The charts of a text. -/
def chartMarks (cs : List Char) : List ChartMark := (items cs).filterMap chartMark?

/-- The charts of some pieces. -/
def pieceMarks (page : List Piece) : List ChartMark := (Piece.items page).filterMap chartMark?

theorem quotedAfter_append {start id : List Char} (h : '"' ∉ id) (rest : List Char) :
    quotedAfter start (start ++ (id ++ '"' :: rest)) = some id := by
  have hquote : ∀ c ∈ id, (c != '"') = true := by
    intro c hc
    rw [bne_iff_ne]
    rintro rfl
    exact h hc
  rw [quotedAfter, if_pos (List.isPrefixOf_iff_prefix.mpr (List.prefix_append _ _)),
    List.drop_left, List.takeWhile_append_of_pos hquote,
    List.takeWhile_cons_of_neg (by decide), List.append_nil]

/-! ### Parts of the page without charts -/

/-- A piece that neither is a canvas nor stands before the data of a chart. -/
def quiet (piece : Piece) : Bool :=
  !piece.isTag || (!canvasName.isPrefixOf piece.chars && piece.chars != dataTag)

/-- All pieces of a part of the page are quiet. -/
def AllQuiet (page : List Piece) : Prop := ∀ piece ∈ page, quiet piece = true

@[simp] theorem allQuiet_nil : AllQuiet [] := nofun

@[simp] theorem allQuiet_cons {piece : Piece} {page : List Piece} :
    AllQuiet (piece :: page) ↔ quiet piece = true ∧ AllQuiet page := List.forall_mem_cons

@[simp] theorem allQuiet_append {page page' : List Piece} :
    AllQuiet (page ++ page') ↔ AllQuiet page ∧ AllQuiet page' := List.forall_mem_append

theorem allQuiet_flatMap {α : Type} {f : α → List Piece} {l : List α}
    (h : ∀ a ∈ l, AllQuiet (f a)) : AllQuiet (l.flatMap f) := by
  intro piece hpiece
  obtain ⟨a, ha, hmem⟩ := List.mem_flatMap.mp hpiece
  exact h a ha piece hmem

@[simp] theorem quiet_fixed (s : String) : quiet (fixed s) = true := rfl

@[simp] theorem quiet_text (s : String) : quiet (text s) = true := rfl

@[simp] theorem quiet_newLine : quiet newLine = true := rfl

@[simp] theorem quiet_payload (value : Json.Value) : quiet (payload value) = true := rfl

/-- The opening tags of the page but for those of a chart and of a badge. -/
def quietTags : List (String × List (String × String)) :=
  [("tr", []), ("tr", [("class", "error-row")]), ("div", [("class", "section")])] ++
    plainTags.erase dataElement

theorem quiet_quietTags : ∀ tag ∈ quietTags, quiet (start tag.1 tag.2) = true := by
  decide

theorem quiet_plainEnds : ∀ name ∈ "script" :: plainEnds, quiet (stop name) = true := by
  decide

@[simp] theorem quiet_start {name : String} {attributes : List (String × String)}
    (h : (name, attributes) ∈ quietTags) : quiet (start name attributes) = true :=
  quiet_quietTags (name, attributes) h

@[simp] theorem quiet_stop {name : String} (h : name ∈ "script" :: plainEnds) :
    quiet (stop name) = true :=
  quiet_plainEnds name h

theorem chartMark?_of_quiet {piece : Piece} (h : quiet piece = true) (htag : piece.isTag = true)
    (text : List Char) : chartMark? (piece.chars, text) = none := by
  unfold quiet at h
  rw [htag, Bool.not_true, Bool.false_or, Bool.and_eq_true, Bool.not_eq_true', bne_iff_ne] at h
  rw [chartMark?, if_neg (by rw [h.1]; exact Bool.false_ne_true), if_neg h.2]

/-- Quiet pieces add nothing to the charts of what follows. -/
theorem pieceMarks_append {part : List Piece} (h : AllQuiet part) (rest : List Piece) :
    pieceMarks (part ++ rest) = pieceMarks rest := by
  unfold pieceMarks
  induction part with
  | nil => rfl
  | cons piece part ih =>
    obtain ⟨hpiece, hpart⟩ := allQuiet_cons.mp h
    rw [List.cons_append, Piece.items]
    split
    · rename_i htag
      rw [List.filterMap_cons, chartMark?_of_quiet hpiece htag]
      exact ih hpart
    · exact ih hpart

theorem pieceMarks_quiet {page : List Piece} (h : AllQuiet page) : pieceMarks page = [] := by
  have hnil := pieceMarks_append h []
  rwa [List.append_nil] at hnil

theorem quiet_paragraph {term description : List Piece} (hterm : AllQuiet term)
    (hdescription : AllQuiet description) : AllQuiet (paragraph term description) := by
  simp (disch := decide) [paragraph, element, hterm, hdescription]

theorem quiet_versionLine (label : String) (version : Option String) :
    AllQuiet (versionLine label version) := by
  cases version with
  | none => exact allQuiet_nil
  | some v => exact quiet_paragraph (by simp) (by simp)

theorem quiet_summaryItem (label : String) (value : Nat) : AllQuiet (summaryItem label value) := by
  simp (disch := decide) [summaryItem, element, classed]

theorem quiet_summary (report : Report) : AllQuiet (summary report) := by
  have hgenerated :
      AllQuiet (paragraph [fixed "Generated:"] [text report.heading.generatedAt]) :=
    quiet_paragraph (by simp) (by simp)
  unfold summary
  split <;>
    simp (disch := decide) [element, classed, hgenerated, quiet_versionLine, quiet_summaryItem]

theorem quiet_contrastCell (contrast : Option Report.Contrast) :
    AllQuiet (contrastCell contrast) := by
  cases contrast with
  | none => simp (disch := decide) [contrastCell, element]
  | some c =>
    have hbadge : quiet (start "span" [("class", "badge badge-" ++ c.verdict.name)]) = true := by
      cases c.verdict <;> decide
    simp (disch := decide) [contrastCell, element, classed, hbadge]

theorem quiet_row (hasComparison : Bool) (r : Report.Row) : AllQuiet (row hasComparison r) := by
  unfold row
  split <;> simp (disch := decide) [element, quiet_contrastCell]

theorem quiet_table (captions : List String) {body : List Piece} (h : AllQuiet body) :
    AllQuiet (table captions body) := by
  have hcells : AllQuiet (captions.flatMap fun c => [start "th" [], fixed c, stop "th"]) :=
    allQuiet_flatMap fun c _ => by simp (disch := decide)
  simp (disch := decide) [table, element, h, hcells]

theorem quiet_failedRow (r : Report.FailedRun) : AllQuiet (failedRow r) := by
  simp (disch := decide) [failedRow, element, classed]

theorem quiet_failedRuns (runs : List Report.FailedRun) : AllQuiet (failedRuns runs) := by
  have htable := quiet_table ["Workload", "Runtime", "Error"]
    (allQuiet_flatMap fun r (_ : r ∈ runs) => quiet_failedRow r)
  unfold failedRuns
  split
  · exact allQuiet_nil
  · simp (disch := decide) [element, classed, htable]

theorem quiet_footer (environment : Option Environment) : AllQuiet (footer environment) := by
  have hplace :
      AllQuiet (paragraph [fixed "Test Environment:"] [text (environmentLine environment)]) :=
    quiet_paragraph (by simp) (by simp)
  have hmethod : AllQuiet (paragraph [fixed "Methodology:"] [fixed methodology]) :=
    quiet_paragraph (by simp) (by simp)
  simp (disch := decide) [footer, classed, hplace, hmethod]

theorem quiet_head (title : String) : AllQuiet (head title) := by
  simp (disch := decide) [head, element]

/-! ### The chart of a section -/

theorem pieceMarks_tag {piece : Piece} (htag : piece.isTag = true) (rest : List Piece) :
    pieceMarks (piece :: rest) =
      (chartMark? (piece.chars, beforeTag (rest.flatMap chars))).toList ++ pieceMarks rest := by
  unfold pieceMarks
  rw [Piece.items, if_pos htag, List.filterMap_cons]
  cases chartMark? (piece.chars, beforeTag (rest.flatMap chars)) <;> rfl

/-- The data of a chart starts with its id. -/
theorem exists_scriptSafe_chartValue (c : Report.Chart) (h : Report.Plain c.id.toList) :
    ∃ rest, scriptSafe (chartValue c).compactChars =
      dataStart ++ (c.id.toList ++ '"' :: rest) := by
  obtain ⟨more, hmore⟩ : ∃ more, (chartValue c).tokens =
      .openObject :: .string (some "id") :: .colon :: .string (some c.id) :: more := ⟨_, rfl⟩
  have hid : Json.labelChars (some "id") = "\"id\"".toList := by decide
  have hchars : (chartValue c).compactChars =
      (dataStart ++ c.id.toList) ++ ('"' :: more.flatMap Json.Token.chars) := by
    rw [Json.Value.compactChars, hmore]
    simp only [List.flatMap_cons, Json.Token.chars, h.labelChars_eq, hid, List.append_assoc,
      List.cons_append, List.nil_append]
    rfl
  have hstart : scriptSafe dataStart = dataStart := by decide
  refine ⟨scriptSafe (more.flatMap Json.Token.chars), ?_⟩
  rw [hchars, scriptSafe_append, scriptSafe_append, hstart, h.scriptSafe_eq, List.append_assoc]
  rfl

/-- The marks of a chart. -/
def marksOf (c : Report.Chart) : List ChartMark :=
  [.canvas (some c.id.toList), .data (some c.id.toList)]

theorem chartMark?_canvas {id : String} (h : Report.Plain id.toList)
    (attributes : List (String × String)) (text : List Char) :
    chartMark? ((start "canvas" (("id", id) :: attributes)).chars, text) =
      some (.canvas (some id.toList)) := by
  have hname : canvasName.isPrefixOf canvasStart = true := by decide
  rw [chartMark?, chars_canvas, h.escape_eq, if_pos (isPrefixOf_append hname _),
    quotedAfter_append h.quote_notMem]

theorem chartMark?_data {id more : List Char} (h : Report.Plain id) :
    chartMark? (dataTag, dataStart ++ (id ++ '"' :: more)) = some (.data (some id)) := by
  have hname : ¬canvasName.isPrefixOf dataTag = true := by decide
  rw [chartMark?, if_neg hname, if_pos rfl, quotedAfter_append h.quote_notMem]

theorem pieceMarks_chart (c : Report.Chart) (h : Report.Plain c.id.toList) (rest : List Piece) :
    pieceMarks (chart c ++ rest) = marksOf c ++ pieceMarks rest := by
  have hbefore : AllQuiet (start "div" [("class", "chart-container")] :: newLine ::
      element "h3" [fixed "Performance Comparison Chart"] ++ [newLine]) := by
    simp (disch := decide) [element]
  have hbetween : AllQuiet [stop "canvas", newLine] := by simp (disch := decide)
  have hafter : AllQuiet [payload (chartValue c), stop "script", newLine, stop "div", newLine] := by
    simp (disch := decide)
  have hparts : chart c ++ rest =
      (start "div" [("class", "chart-container")] :: newLine ::
        element "h3" [fixed "Performance Comparison Chart"] ++ [newLine]) ++
      start "canvas" [("id", c.id), ("width", "400"), ("height", "200")] ::
      ([stop "canvas", newLine] ++ start dataElement.1 dataElement.2 ::
      ([payload (chartValue c), stop "script", newLine, stop "div", newLine] ++ rest)) := rfl
  obtain ⟨more, hmore⟩ := exists_scriptSafe_chartValue c h
  -- the data ends where its element does
  have hdata : beforeTag (([payload (chartValue c), stop "script", newLine, stop "div", newLine] ++
      rest).flatMap chars) = scriptSafe (chartValue c).compactChars :=
    beforeTag_append (flat_scriptSafe _) _
  rw [hparts, pieceMarks_append hbefore, pieceMarks_tag rfl, chartMark?_canvas h,
    pieceMarks_append hbetween, pieceMarks_tag rfl, hdata, hmore,
    show (start dataElement.1 dataElement.2).chars = dataTag from rfl, chartMark?_data h,
    pieceMarks_append hafter]
  rfl

/-! ### The charts of a page -/

/-- A section with rows has its chart, and one without has none. -/
theorem pieceMarks_section (hasComparison : Bool) (s : Report.Section)
    (h : Report.Plain s.chart.id.toList) (rest : List Piece) :
    pieceMarks («section» hasComparison s ++ rest) =
      (if shown s then marksOf s.chart else []) ++ pieceMarks rest := by
  have hrows := quiet_table (columns hasComparison)
    (allQuiet_flatMap fun r (_ : r ∈ s.rows) => quiet_row hasComparison r)
  have hbefore : AllQuiet
      (start "div" [("class", "section")] :: newLine :: element "h2" [text s.category] ++
        [newLine]) := by
    simp (disch := decide) [element]
  have hafter : AllQuiet [stop "div", newLine] := by simp (disch := decide)
  have hnone : AllQuiet (element "p" [fixed "No tests available for this category."] ++
      [newLine]) := by
    simp (disch := decide) [element]
  have hparts : «section» hasComparison s ++ rest =
      (start "div" [("class", "section")] :: newLine :: element "h2" [text s.category] ++
        [newLine]) ++
      ((if s.rows.isEmpty then
          element "p" [fixed "No tests available for this category."] ++ [newLine]
        else table (columns hasComparison) (s.rows.flatMap (row hasComparison)) ++
          chart s.chart) ++
        ([stop "div", newLine] ++ rest)) := by
    simp only [«section», classed, List.cons_append, List.append_assoc, List.nil_append]
  rw [hparts, pieceMarks_append hbefore, shown]
  cases s.rows.isEmpty with
  | true =>
    rw [if_pos rfl, pieceMarks_append hnone, pieceMarks_append hafter]
    rfl
  | false =>
    rw [if_neg Bool.false_ne_true, List.append_assoc, pieceMarks_append hrows,
      pieceMarks_chart s.chart h, pieceMarks_append hafter]
    rfl

theorem pieceMarks_sections (hasComparison : Bool) {sections : List Report.Section}
    (h : ∀ s ∈ sections, Report.Plain s.chart.id.toList) (rest : List Piece) :
    pieceMarks (sections.flatMap («section» hasComparison) ++ rest) =
      ((sections.filter shown).flatMap fun s => marksOf s.chart) ++ pieceMarks rest := by
  induction sections with
  | nil => rfl
  | cons s sections ih =>
    obtain ⟨hs, hsections⟩ := List.forall_mem_cons.mp h
    rw [List.flatMap_cons, List.append_assoc, pieceMarks_section hasComparison s hs,
      ih hsections, List.filter_cons]
    split <;> simp

theorem pieceMarks_container (report : Report)
    (h : ∀ s ∈ report.sections, Report.Plain s.chart.id.toList) (rest : List Piece) :
    pieceMarks (container report ++ rest) =
      ((report.sections.filter shown).flatMap fun s => marksOf s.chart) ++ pieceMarks rest := by
  have hbefore : AllQuiet (start "div" [("class", "container")] :: newLine ::
      element "h1" [text report.heading.title] ++ [newLine] ++ summary report) := by
    simp (disch := decide) [element, quiet_summary]
  have hafter : AllQuiet (failedRuns report.failedRuns ++ footer report.heading.environment ++
      [stop "div", newLine]) := by
    simp (disch := decide) [quiet_failedRuns, quiet_footer]
  have hparts : container report ++ rest =
      (start "div" [("class", "container")] :: newLine ::
        element "h1" [text report.heading.title] ++ [newLine] ++ summary report) ++
      (report.sections.flatMap («section» report.hasComparison) ++
        ((failedRuns report.failedRuns ++ footer report.heading.environment ++
          [stop "div", newLine]) ++ rest)) := by
    simp only [container, classed, List.cons_append, List.append_assoc, List.nil_append]
  rw [hparts, pieceMarks_append hbefore, pieceMarks_sections _ h, pieceMarks_append hafter]

theorem pieceMarks_pieces (report : Report)
    (h : ∀ s ∈ report.sections, Report.Plain s.chart.id.toList) :
    pieceMarks (pieces report) =
      (report.sections.filter shown).flatMap fun s => marksOf s.chart := by
  have hbefore : AllQuiet (start "!DOCTYPE html" [] :: newLine :: start "html" [("lang", "en")] ::
      newLine :: head report.heading.title ++ [start "body" [], newLine]) := by
    simp (disch := decide) [quiet_head]
  have hafter : AllQuiet (element "script" [newLine, fixed script] ++
      [newLine, stop "body", newLine, stop "html", newLine]) := by
    simp (disch := decide) [element]
  have hparts : pieces report =
      (start "!DOCTYPE html" [] :: newLine :: start "html" [("lang", "en")] ::
        newLine :: head report.heading.title ++ [start "body" [], newLine]) ++
      (container report ++ (element "script" [newLine, fixed script] ++
        [newLine, stop "body", newLine, stop "html", newLine])) := by
    simp only [pieces, element, List.cons_append, List.append_assoc, List.nil_append]
  rw [hparts, pieceMarks_append hbefore, pieceMarks_container report h, pieceMarks_quiet hafter,
    List.append_nil]

/-- A reader of a page finds the charts of the sections that have rows. -/
theorem chartMarks_render (report : Report)
    (h : ∀ s ∈ report.sections, Report.Plain s.chart.id.toList) :
    chartMarks report.render.toList =
      (report.sections.filter shown).flatMap fun s => marksOf s.chart := by
  rw [← pieceMarks_pieces report h, Report.render, render, String.toList_ofList, chartMarks,
    items_page (pieces_sound report)]
  rfl

end Page

/-! ### The ids of a report -/

namespace Report

open Page

theorem getElem?_sections_build (groups : List ResultGroup) (comparison : Option Comparison)
    (heading : Heading) (i : Nat) :
    (build groups comparison heading).sections[i]? =
      groups[i]?.map (Section.of heading comparison i) :=
  List.getElem?_mapIdx

theorem map_id_sections_build (groups : List ResultGroup) (comparison : Option Comparison)
    (heading : Heading) :
    (build groups comparison heading).sections.map (·.chart.id) =
      groups.mapIdx fun i g => chartId i g.category := by
  refine List.ext_getElem? fun i => ?_
  rw [List.getElem?_map, getElem?_sections_build, List.getElem?_mapIdx, Option.map_map]
  rfl

theorem plain_of_mem_build {groups : List ResultGroup} {comparison : Option Comparison}
    {heading : Heading} {s : Section} (hs : s ∈ (build groups comparison heading).sections) :
    Plain s.chart.id.toList := by
  obtain ⟨i, hi, rfl⟩ := List.mem_mapIdx.mp hs
  exact plain_chartId i _

/-- **The chart ids of a report are distinct and safe**: each is made of the index of its section and of
words with single dashes between them, it is written as it is in markup and in JSON, and the data of every
chart on the page has the id of the canvas right before it. -/
theorem chart_ids (groups : List ResultGroup) (comparison : Option Comparison) (heading : Heading)
    (pairs : List RunPair) :
    let report := (build groups comparison heading).withFailedRuns pairs
    (report.sections.map (·.chart.id)).Nodup ∧
      report.sections.length = groups.length ∧
      (∀ (i : Nat) (g : ResultGroup), groups[i]? = some g →
        ∃ s words, report.sections[i]? = some s ∧ s.category = g.category ∧
          (∀ word ∈ words, IsWord word) ∧ words.flatten = lettersAndDigits g.category.toList ∧
          s.chart.id.toList =
            "chart-".toList ++ (Nat.toDigits 10 i ++ '-' :: ['-'].intercalate words)) ∧
      (∀ s ∈ report.sections,
        Markup.escape s.chart.id.toList = s.chart.id.toList ∧
          Json.labelChars (some s.chart.id) = '"' :: (s.chart.id.toList ++ ['"']) ∧
          Markup.scriptSafe s.chart.id.toList = s.chart.id.toList) ∧
      chartMarks report.render.toList = (report.sections.filter shown).flatMap fun s =>
        [.canvas (some s.chart.id.toList), .data (some s.chart.id.toList)] := by
  intro report
  have hplain : ∀ s ∈ report.sections, Plain s.chart.id.toList := fun _ => plain_of_mem_build
  refine ⟨?_, List.length_mapIdx, fun i g hg => ?_, fun s hs => ?_, chartMarks_render report hplain⟩
  · exact (map_id_sections_build groups comparison heading).symm ▸ nodup_chartIds groups
  · obtain ⟨words, hslug, hwords, hflatten⟩ := exists_words g.category.toList
    refine ⟨Section.of heading comparison i g, words, ?_, rfl, hwords, hflatten, ?_⟩
    · exact (getElem?_sections_build groups comparison heading i).trans (congrArg _ hg)
    · rw [← hslug]
      exact toList_chartId i g.category
  · exact ⟨(hplain s hs).escape_eq, (hplain s hs).labelChars_eq, (hplain s hs).scriptSafe_eq⟩

end Report

end Stopwatch
