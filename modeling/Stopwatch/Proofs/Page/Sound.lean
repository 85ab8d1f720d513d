import Stopwatch.Proofs.Markup.Tags
import Stopwatch.Report.Page

/-!
# The pieces of a report page are sound

Every piece of fixed text on a report page is free of angle brackets: captions, figures,
the style sheet and the script. So the tags of the page are its tag pieces
(`Markup.tags_page`), and nothing that a report carries can add to them.

- `Page.pieces_sound`: the result, from one lemma for each part of the page.
-/

namespace Stopwatch.Page

open Markup Markup.Piece

/-- All pieces of a part of the page are sound. -/
def AllSound (page : List Piece) : Prop := ∀ piece ∈ page, piece.Sound

@[simp] theorem allSound_nil : AllSound [] := nofun

@[simp] theorem allSound_cons {piece : Piece} {page : List Piece} :
    AllSound (piece :: page) ↔ piece.Sound ∧ AllSound page := List.forall_mem_cons

@[simp] theorem allSound_append {page page' : List Piece} :
    AllSound (page ++ page') ↔ AllSound page ∧ AllSound page' := List.forall_mem_append

theorem allSound_flatMap {α : Type} {f : α → List Piece} {l : List α}
    (h : ∀ a ∈ l, AllSound (f a)) : AllSound (l.flatMap f) := by
  intro piece hpiece
  obtain ⟨a, ha, hmem⟩ := List.mem_flatMap.mp hpiece
  exact h a ha piece hmem

@[simp] theorem allSound_element {name : String} {content : List Piece} :
    AllSound (element name content) ↔ Flat name.toList ∧ AllSound content := by
  simp [element, Sound, and_comm]

@[simp] theorem allSound_classed {name cls : String} {content : List Piece} :
    AllSound (classed name cls content) ↔ Flat name.toList ∧ AllSound content := by
  simp [classed, Sound, and_comm]

@[simp] theorem sound_start {name : String} {attributes : List (String × String)} :
    (start name attributes).Sound ↔ Flat name.toList ∧ ∀ a ∈ attributes, Flat a.1.toList :=
  Iff.rfl

@[simp] theorem sound_stop {name : String} : (stop name).Sound ↔ Flat name.toList := Iff.rfl

@[simp] theorem sound_fixed {s : String} : (fixed s).Sound ↔ Flat s.toList := Iff.rfl

@[simp] theorem sound_text (s : String) : (text s).Sound := trivial

@[simp] theorem sound_payload (value : Json.Value) : (payload value).Sound := trivial

@[simp] theorem sound_newLine : newLine.Sound := by
  show Flat "\n".toList
  decide

/-! ### Figures -/

theorem flat_of_isDigit {cs : List Char} (h : ∀ c ∈ cs, c.isDigit) : Flat cs := by
  intro c hc
  have hdigit := h c hc
  constructor <;>
    · rintro rfl
      exact absurd hdigit (by decide)

theorem flat_toDigits (n : Nat) : Flat (Nat.toDigits 10 n) :=
  flat_of_isDigit fun _ => Nat.isDigit_of_mem_toDigits (by decide) (by decide)

theorem flat_placePoint (places digits : Nat) : Flat (Decimal.placePoint places digits) := by
  unfold Decimal.placePoint
  split
  · exact flat_toDigits _
  · have hzeros : Flat (List.replicate
        (places - (Nat.toDigits 10 (digits % Nat.pow 10 places)).length) '0') :=
      flat_of_isDigit fun c hc => by rw [List.eq_of_mem_replicate hc]; decide
    exact flat_append.mpr ⟨flat_toDigits _, flat_cons.mpr ⟨by decide,
      flat_append.mpr ⟨hzeros, flat_toDigits _⟩⟩⟩

theorem flat_fixed (places : Nat) (x : Float) : Flat (Decimal.fixed places x).toList := by
  unfold Decimal.fixed
  cases Decimal.Binary.ofFloat x with
  | nan =>
    show Flat "NaN".toList
    decide
  | infinite negative =>
    cases negative with
    | true =>
      show Flat "-inf".toList
      decide
    | false =>
      show Flat "inf".toList
      decide
  | finite negative mantissa exponent =>
    have hbody := flat_placePoint places
      (Decimal.roundHalfEven (mantissa * Nat.pow 2 exponent.toNat * Nat.pow 10 places)
        (Nat.pow 2 (-exponent).toNat))
    simp only [String.toList_ofList]
    cases negative with
    | true => exact flat_cons.mpr ⟨by decide, hbody⟩
    | false => exact hbody

/-! ### The style sheet and the script -/

theorem flat_joinLines {lines : List String} (h : ∀ line ∈ lines, Flat line.toList) :
    Flat (joinLines lines).toList := by
  rw [joinLines, String.toList_join, List.flatMap_map]
  refine flat_flatMap fun line hline => ?_
  rw [String.toList_append]
  exact flat_append.mpr ⟨h line hline, by decide⟩

set_option maxRecDepth 2000 in
theorem flat_style : Flat style.toList := by
  refine flat_joinLines ?_
  -- line by line, so that each evaluation stays small
  simp only [List.forall_mem_cons, List.not_mem_nil, false_implies, implies_true, and_true]
  and_intros <;> exact flat_ofList (by decide)

theorem flat_script : Flat script.toList := by
  refine flat_joinLines ?_
  simp only [List.forall_mem_cons, List.not_mem_nil, false_implies, implies_true, and_true]
  and_intros <;> exact flat_ofList (by decide)

set_option maxRecDepth 2000 in
theorem flat_methodology : Flat methodology.toList := by
  unfold methodology
  rw [String.toList_append]
  exact flat_append.mpr ⟨flat_ofList (by decide), flat_ofList (by decide)⟩

/-! ### The parts of the page -/

theorem allSound_paragraph {term description : List Piece} (hterm : AllSound term)
    (hdescription : AllSound description) : AllSound (paragraph term description) := by
  simp [paragraph, hterm, hdescription]

theorem allSound_versionLine (label : String) (version : Option String) :
    AllSound (versionLine label version) := by
  cases version with
  | none => exact allSound_nil
  | some v => exact allSound_paragraph (by simp) (by simp)

theorem allSound_summaryItem (label : String) (h : Flat label.toList) (value : Nat) :
    AllSound (summaryItem label value) := by
  simp [summaryItem, h, flat_toDigits]

theorem allSound_summary (report : Report) : AllSound (summary report) := by
  have hgenerated :
      AllSound (paragraph [fixed "Generated:"] [text report.heading.generatedAt]) :=
    allSound_paragraph (by simp) (by simp)
  have hcategories := allSound_summaryItem "Total Categories" (by decide)
  have htests := allSound_summaryItem "Total Tests" (by decide)
  have hcompared := allSound_summaryItem "Compared Tests" (by decide)
  unfold summary
  split <;> simp [hgenerated, allSound_versionLine, hcategories, htests, hcompared]

theorem allSound_chart (c : Report.Chart) : AllSound (chart c) := by
  simp [chart]

theorem allSound_contrastCell (contrast : Option Report.Contrast) :
    AllSound (contrastCell contrast) := by
  cases contrast with
  | none => simp [contrastCell]
  | some c =>
    have htitle : Flat c.verdict.title.toList := by
      cases c.verdict <;> decide
    have hsign : Flat (if 0.0 < c.percentDiff then "+" else "").toList := by
      split <;> decide
    simp [contrastCell, htitle, hsign, flat_fixed]

theorem allSound_row (hasComparison : Bool) (r : Report.Row) :
    AllSound (row hasComparison r) := by
  unfold row
  split <;> simp [flat_fixed, allSound_contrastCell]

theorem allSound_table (captions : List String) {body : List Piece}
    (hcaptions : ∀ c ∈ captions, Flat c.toList) (hbody : AllSound body) :
    AllSound (table captions body) := by
  have hcells : AllSound (captions.flatMap fun c => element "th" [fixed c]) :=
    allSound_flatMap fun c hc => by simp [hcaptions c hc]
  simp [table, hcells, hbody]

theorem flat_columns (hasComparison : Bool) : ∀ c ∈ columns hasComparison, Flat c.toList := by
  cases hasComparison <;> simp [columns]

theorem allSound_section (hasComparison : Bool) (s : Report.Section) :
    AllSound («section» hasComparison s) := by
  have htable := allSound_table (columns hasComparison) (flat_columns hasComparison)
    (allSound_flatMap fun r (_ : r ∈ s.rows) => allSound_row hasComparison r)
  unfold «section»
  split <;> simp [htable, allSound_chart]

theorem allSound_failedRow (r : Report.FailedRun) : AllSound (failedRow r) := by
  simp [failedRow]

theorem allSound_failedRuns (runs : List Report.FailedRun) : AllSound (failedRuns runs) := by
  have htable := allSound_table ["Workload", "Runtime", "Error"] (by simp)
    (allSound_flatMap fun r (_ : r ∈ runs) => allSound_failedRow r)
  unfold failedRuns
  split <;> simp [htable]

theorem allSound_footer (environment : Option Environment) : AllSound (footer environment) := by
  have hplace :
      AllSound (paragraph [fixed "Test Environment:"] [text (environmentLine environment)]) :=
    allSound_paragraph (by simp) (by simp)
  have hmethod : AllSound (paragraph [fixed "Methodology:"] [fixed methodology]) :=
    allSound_paragraph (by simp) (by simp [flat_methodology])
  simp [footer, hplace, hmethod]

theorem allSound_head (title : String) : AllSound (head title) := by
  simp [head, flat_style]

theorem allSound_container (report : Report) : AllSound (container report) := by
  have hsections : AllSound (report.sections.flatMap («section» report.hasComparison)) :=
    allSound_flatMap fun s _ => allSound_section report.hasComparison s
  simp [container, allSound_summary, hsections, allSound_failedRuns, allSound_footer]

/-- The pieces of the page of any report are sound. -/
theorem pieces_sound (report : Report) : ∀ piece ∈ pieces report, piece.Sound := by
  show AllSound (pieces report)
  simp [pieces, allSound_head, allSound_container, flat_script]

end Stopwatch.Page
