import Mathlib.Algebra.GroupWithZero.Nat
import Mathlib.Data.List.Nodup
import Stopwatch.Proofs.Comparison.Join
import Stopwatch.Report.Basic

/-!
# Reports agree with their comparison

A comparison finds the counterpart of a test by its name alone. A report then looks its
records up by category *and* name, once for the row of a test and once for its bar in the
chart, and of several records it takes the last. Names may be used many times on either
side, yet whether a row is compared, and with which mean, does not depend on the record
that is found: all records of a name have the same counterpart.

- `Comparison.recordFor?_of`: which record is found;
- `Report.contrast_row`, `Report.baselinePoint_eq`: what a row and a bar show of it;
- `Report.build_agrees`: a report shows what its comparison says, and as often.
-/

namespace Stopwatch.Comparison

/-- The last placed test of a category and a name. -/
def lastPlaced? (category name : String) (groups : List ResultGroup) :
    Option (String × TestResult) :=
  ((placed groups).filter fun p => p.1 == category && p.2.name == name).getLast?

theorem lastPlaced?_eq_some_iff {category name : String} {groups : List ResultGroup}
    {p : String × TestResult} :
    lastPlaced? category name groups = some p ↔
      IsLast (fun q => q.1 = category ∧ q.2.name = name) (placed groups) p := by
  unfold lastPlaced?
  rw [getLast?_filter_eq_some_iff]
  simp only [Bool.and_eq_true, beq_iff_eq]

/-- Every placed test is found under its category and name, or a later one is. -/
theorem exists_lastPlaced {groups : List ResultGroup} {p : String × TestResult}
    (hp : p ∈ placed groups) : ∃ t, lastPlaced? p.1 p.2.name groups = some (p.1, t) := by
  have hmem : p ∈ (placed groups).filter fun q => q.1 == p.1 && q.2.name == p.2.name :=
    List.mem_filter.mpr ⟨hp, by simp⟩
  obtain ⟨q, hq⟩ := Option.isSome_iff_exists.mp
    (List.getLast?_isSome.mpr (List.ne_nil_of_mem hmem))
  obtain ⟨_, _, _, ⟨hcategory, _⟩, _⟩ := lastPlaced?_eq_some_iff.mp hq
  exact ⟨q.2, hq.trans (congrArg (fun c => some (c, q.2)) hcategory)⟩

theorem beside_category (category : String) (test : TestResult) (base : Option TestResult) :
    (beside category test base).category = category := by
  cases base <;> rfl

theorem beside_name (category : String) (test : TestResult) (base : Option TestResult) :
    (beside category test base).name = test.name := by
  cases base <;> rfl

/-- A category and a name find the record of the last such test. -/
theorem recordFor?_of (candidate baseline : List ResultGroup) (category name : String) :
    (of candidate (some baseline)).recordFor? category name =
      (lastPlaced? category name candidate).map fun p =>
        beside category p.2 (lastNamed? name (ResultGroup.allTests baseline)) := by
  unfold recordFor?
  rw [records_of_placed, List.filter_map, List.getLast?_map]
  simp only [Function.comp_def, beside_category, beside_name]
  show (lastPlaced? category name candidate).map _ = _
  cases hlast : lastPlaced? category name candidate with
  | none => rfl
  | some p =>
    obtain ⟨_, _, _, ⟨rfl, rfl⟩, _⟩ := lastPlaced?_eq_some_iff.mp hlast
    rfl

end Stopwatch.Comparison

namespace Stopwatch.Report

open Comparison (IsLast placed lastPlaced? lastNamed? beside lastNamed?_eq_some_iff
  lastNamed?_eq_none_iff lastPlaced?_eq_some_iff exists_lastPlaced)
open ResultGroup (allTests)

/-- How a test compares with another one. -/
def Contrast.between (test base : TestResult) : Contrast :=
  let percentDiff := (test.stats.mean - base.stats.mean) / base.stats.mean * 100.0
  ⟨.of (.faster (test.stats.mean / base.stats.mean)) percentDiff, percentDiff, base.stats.mean⟩

/-- The bars of the baseline, which stand behind those of the candidate. -/
def Section.baselineSeries? (s : Section) : Option Series := s.chart.series[1]?

/-! ### Rows and bars -/

section
variable (candidate baseline : List ResultGroup)

/-- What is found of a test is the record of the last test of its category and name. -/
theorem find?_placed {p : String × TestResult} (hp : p ∈ placed candidate) :
    ∃ t, lastPlaced? p.1 p.2.name candidate = some (p.1, t) ∧
      find? (some (.of candidate (some baseline))) p.1 p.2.name =
        some (beside p.1 t (lastNamed? p.2.name (allTests baseline))) := by
  obtain ⟨t, ht⟩ := exists_lastPlaced hp
  refine ⟨t, ht, ?_⟩
  show (Comparison.of candidate (some baseline)).recordFor? p.1 p.2.name = _
  rw [Comparison.recordFor?_of, ht, Option.map_some]

theorem ofRecord?_beside (category : String) (test : TestResult) (base : Option TestResult) :
    Contrast.ofRecord? (beside category test base) = base.map (.between test) := by
  cases base <;> rfl

/-- The contrast of a row, with the last test of its category and name standing for its
own. -/
theorem contrast_row {p : String × TestResult} (hp : p ∈ placed candidate) :
    ∃ t, lastPlaced? p.1 p.2.name candidate = some (p.1, t) ∧
      (Row.of (some (.of candidate (some baseline))) p.1 p.2).contrast =
        (lastNamed? p.2.name (allTests baseline)).map (.between t) := by
  obtain ⟨t, ht, hfind⟩ := find?_placed candidate baseline hp
  refine ⟨t, ht, ?_⟩
  show (find? _ p.1 p.2.name).bind Contrast.ofRecord? = _
  rw [hfind, Option.bind_some, ofRecord?_beside]

/-- The bar of a test shows the mean that its row is compared with. -/
theorem baselinePoint_eq {p : String × TestResult} (hp : p ∈ placed candidate) :
    baselinePoint (some (.of candidate (some baseline))) p.1 p.2 =
      (Row.of (some (.of candidate (some baseline))) p.1 p.2).contrast.map
        Contrast.baselineMean := by
  obtain ⟨t, _, hfind⟩ := find?_placed candidate baseline hp
  show ((find? _ p.1 p.2.name).bind Comparison.Record.baseline).map Spread.mean =
    ((find? _ p.1 p.2.name).bind Contrast.ofRecord?).map _
  rw [hfind, Option.bind_some, Option.bind_some, ofRecord?_beside, Comparison.beside_baseline,
    Option.map_map, Option.map_map]
  rfl

/-- A row compares a test with the last one of its name in the baseline, if there is one. -/
def Row.Contrasts (baseline : List ResultGroup) (t : TestResult) (row : Row) : Prop :=
  ∀ c, row.contrast = some c ↔
    ∃ base, IsLast (·.name = row.name) (allTests baseline) base ∧ c = .between t base

theorem Row.contrasts_of_eq {t : TestResult} {row : Row}
    (h : row.contrast = (lastNamed? row.name (allTests baseline)).map (.between t)) :
    row.Contrasts baseline t := by
  intro c
  rw [h, Option.map_eq_some_iff]
  simp only [lastNamed?_eq_some_iff, eq_comm (a := c)]

/-- A row shows its test, and the contrast that the comparison found. -/
structure Row.Agrees (category : String) (test : TestResult) (row : Row) : Prop where
  name : row.name = test.name
  figures : (⟨row.mean, row.median, row.min, row.max, row.stddev⟩ : Spread) =
    .ofSummary test.stats
  compared : row.contrast.isSome ↔ ∃ base ∈ allTests baseline, base.name = test.name
  contrasts : ∃ t,
    IsLast (fun p => p.1 = category ∧ p.2.name = test.name) (placed candidate) (category, t) ∧
      row.Contrasts baseline t

theorem row_agrees {p : String × TestResult} (hp : p ∈ placed candidate) :
    (Row.of (some (.of candidate (some baseline))) p.1 p.2).Agrees candidate baseline
      p.1 p.2 := by
  obtain ⟨t, ht, hcontrast⟩ := contrast_row candidate baseline hp
  refine ⟨rfl, rfl, ?_, t, lastPlaced?_eq_some_iff.mp ht, Row.contrasts_of_eq _ hcontrast⟩
  rw [hcontrast, Option.isSome_map, ← not_iff_not, Bool.not_eq_true,
    Option.isSome_eq_false_iff, Option.isNone_iff_eq_none, lastNamed?_eq_none_iff]
  simp only [not_exists, not_and, ne_eq]

end

/-! ### Sections -/

/-- A section shows the tests of its group, in order: as rows, as labels and as bars. -/
structure Section.Agrees (candidate baseline : List ResultGroup) (heading : Heading)
    (g : ResultGroup) (s : Section) : Prop where
  category : s.category = g.category
  rows : List.Forall₂ (Row.Agrees candidate baseline g.category) g.tests s.rows
  labels : s.chart.labels = g.tests.map TestResult.name
  candidateSeries : s.chart.series.head? =
    some ⟨heading.candidateLabel, g.tests.map (some ·.stats.mean)⟩
  series_le_two : s.chart.series.length ≤ 2
  points_length : ∀ x ∈ s.chart.series, x.data.length = s.rows.length
  baselineSeries : s.baselineSeries?.isSome ↔ ∃ row ∈ s.rows, row.contrast.isSome
  baselinePoints : ∀ x, s.baselineSeries? = some x →
    x = ⟨heading.baselineLabel, s.rows.map (·.contrast.map Contrast.baselineMean)⟩

theorem mem_placed {groups : List ResultGroup} {g : ResultGroup} {t : TestResult}
    (hg : g ∈ groups) (ht : t ∈ g.tests) : (g.category, t) ∈ placed groups :=
  List.mem_flatMap.mpr ⟨g, hg, List.mem_map.mpr ⟨t, ht, rfl⟩⟩

/-- The bars of a chart, in terms of the rows beside it. -/
theorem series_of (candidate baseline : List ResultGroup) (heading : Heading)
    {g : ResultGroup} (hg : g ∈ candidate) (rows : List Row)
    (hrows : rows = g.tests.map (Row.of (some (.of candidate (some baseline))) g.category)) :
    Series.of heading (some (.of candidate (some baseline))) g =
      ⟨heading.candidateLabel, g.tests.map (some ·.stats.mean)⟩ ::
        if rows.any (·.contrast.isSome) then
          [⟨heading.baselineLabel, rows.map (·.contrast.map Contrast.baselineMean)⟩]
        else [] := by
  have hpoints : g.tests.map (baselinePoint (some (.of candidate (some baseline))) g.category) =
      rows.map (·.contrast.map Contrast.baselineMean) := by
    rw [hrows, List.map_map]
    exact List.map_congr_left fun t ht =>
      baselinePoint_eq candidate baseline (mem_placed hg ht)
  unfold Series.of
  simp only [hpoints, List.any_map, Function.comp_def, Option.isSome_map]
  split <;> rfl

theorem section_agrees (candidate baseline : List ResultGroup) (heading : Heading)
    (index : Nat) {g : ResultGroup} (hg : g ∈ candidate) :
    (Section.of heading (some (.of candidate (some baseline))) index g).Agrees
      candidate baseline heading g := by
  generalize hs : Section.of heading (some (.of candidate (some baseline))) index g = s
  have hrows : s.rows =
      g.tests.map (Row.of (some (.of candidate (some baseline))) g.category) := by
    rw [← hs]
    rfl
  have hseries : s.chart.series = _ :=
    (congrArg (·.chart.series) hs.symm).trans (series_of candidate baseline heading hg _ hrows)
  have hbaseline : s.baselineSeries? =
      if s.rows.any (·.contrast.isSome) then
        some ⟨heading.baselineLabel, s.rows.map (·.contrast.map Contrast.baselineMean)⟩
      else none := by
    rw [Section.baselineSeries?, hseries]
    split <;> rfl
  exact {
    category := by rw [← hs]; rfl
    rows := by
      rw [hrows, List.forall₂_map_right_iff, List.forall₂_same]
      exact fun t ht => row_agrees candidate baseline (mem_placed hg ht)
    labels := by rw [← hs]; rfl
    candidateSeries := by rw [hseries]; rfl
    series_le_two := by
      rw [hseries]
      split <;> simp
    points_length := by
      have hlength : s.rows.length = g.tests.length := by rw [hrows, List.length_map]
      rw [hseries]
      split <;> simp [hlength]
    baselineSeries := by
      rw [hbaseline, ← List.any_eq_true]
      split <;> simp_all
    baselinePoints := by
      intro x hx
      rw [hbaseline] at hx
      split at hx
      · exact (Option.some.inj hx).symm
      · cases hx }

/-! ### Whole reports -/

/-- How many rows of a report are compared. -/
def comparedRows (report : Report) : Nat :=
  (report.sections.map fun s => s.rows.countP (·.contrast.isSome)).sum

/-- How many bars of a report stand for the baseline. -/
def baselineBars (report : Report) : Nat :=
  (report.sections.map fun s =>
    s.baselineSeries?.elim 0 fun x => x.data.countP Option.isSome).sum

theorem forall₂_mapIdx {α β : Type} {R : α → β → Prop} {f : Nat → α → β} {xs : List α}
    (h : ∀ i, ∀ x ∈ xs, R x (f i x)) : List.Forall₂ R xs (xs.mapIdx f) := by
  rw [List.forall₂_iff_get]
  refine ⟨by simp, fun i hi _ => ?_⟩
  simpa using h i xs[i] (List.getElem_mem hi)

theorem map_eq_map_of_forall₂ {α β γ : Type} {R : α → β → Prop} {f : α → γ} {g : β → γ}
    {xs : List α} {ys : List β} (h : List.Forall₂ R xs ys) (hR : ∀ x y, R x y → g y = f x) :
    ys.map g = xs.map f := by
  rw [← List.forall₂_eq_eq_eq, List.forall₂_map_left_iff, List.forall₂_map_right_iff]
  exact h.flip.imp fun y x hxy => hR x y hxy

theorem sections_agree (candidate baseline : List ResultGroup) (heading : Heading) :
    List.Forall₂ (Section.Agrees candidate baseline heading) candidate
      (build candidate (some (.of candidate (some baseline))) heading).sections :=
  forall₂_mapIdx fun i _ hg => section_agrees candidate baseline heading i hg

/-- A section compares the tests of its group that have a counterpart. -/
theorem Section.Agrees.countP_rows {candidate baseline : List ResultGroup}
    {heading : Heading} {g : ResultGroup} {s : Section}
    (h : s.Agrees candidate baseline heading g) :
    s.rows.countP (·.contrast.isSome) =
      g.tests.countP fun t => (allTests baseline).any (·.name == t.name) := by
  have hmap : s.rows.map (·.contrast.isSome) =
      g.tests.map fun t => (allTests baseline).any (·.name == t.name) :=
    map_eq_map_of_forall₂ h.rows fun t row hrow => by
      rw [Bool.eq_iff_iff, hrow.compared]
      simp only [List.any_eq_true, beq_iff_eq]
  have hcount := congrArg (List.countP id) hmap
  rwa [List.countP_map, List.countP_map] at hcount

/-- And it has a bar of the baseline for each of them. -/
theorem Section.Agrees.countP_points {candidate baseline : List ResultGroup}
    {heading : Heading} {g : ResultGroup} {s : Section}
    (h : s.Agrees candidate baseline heading g) :
    (s.baselineSeries?.elim 0 fun x => x.data.countP Option.isSome) =
      s.rows.countP (·.contrast.isSome) := by
  cases hseries : s.baselineSeries? with
  | none =>
    have hnone := h.baselineSeries
    rw [hseries] at hnone
    refine (List.countP_eq_zero.mpr fun row hrow hcontrast => ?_).symm
    exact absurd (hnone.mpr ⟨row, hrow, hcontrast⟩) (by simp)
  | some x =>
    rw [h.baselinePoints x hseries, Option.elim_some, List.countP_map]
    simp only [Function.comp_def, Option.isSome_map]

/-- Whatever is counted in every section once for each test with a counterpart, the
comparison has counted too. -/
theorem sum_sections {candidate baseline : List ResultGroup} {heading : Heading}
    {count : Section → Nat}
    (h : ∀ g s, s.Agrees candidate baseline heading g →
      count s = g.tests.countP fun t => (allTests baseline).any (·.name == t.name)) :
    ((build candidate (some (.of candidate (some baseline))) heading).sections.map count).sum =
      (Comparison.of candidate (some baseline)).totals.compared := by
  rw [Comparison.compared_of, placed, List.countP_flatMap,
    map_eq_map_of_forall₂ (sections_agree candidate baseline heading) h]
  simp only [Function.comp_def, List.countP_map]

theorem comparedRows_build (candidate baseline : List ResultGroup) (heading : Heading) :
    comparedRows (build candidate (some (.of candidate (some baseline))) heading) =
      (Comparison.of candidate (some baseline)).totals.compared :=
  sum_sections fun _ _ h => h.countP_rows

theorem baselineBars_build (candidate baseline : List ResultGroup) (heading : Heading) :
    baselineBars (build candidate (some (.of candidate (some baseline))) heading) =
      (Comparison.of candidate (some baseline)).totals.compared :=
  sum_sections fun _ _ h => h.countP_points.trans h.countP_rows

/-- If no test shares category and name with another one, every row shows its own
contrast. -/
theorem contrasts_of_nodup {candidate : List ResultGroup} (baseline : List ResultGroup)
    (hkeys : ((placed candidate).map fun p => (p.1, p.2.name)).Nodup)
    {p : String × TestResult} (hp : p ∈ placed candidate) :
    (Row.of (some (.of candidate (some baseline))) p.1 p.2).Contrasts baseline p.2 := by
  obtain ⟨t, hlast, hcontrasts⟩ := (row_agrees candidate baseline hp).contrasts
  have hown : (p.1, t) = p := by
    obtain ⟨_, _, _, ⟨_, hname⟩, _⟩ := id hlast
    exact List.inj_on_of_nodup_map hkeys hlast.mem hp (Prod.ext rfl hname)
  obtain rfl : t = p.2 := congrArg Prod.snd hown
  exact hcontrasts

/-- **A report agrees with its comparison**: its sections, rows and labels are the groups
and tests in order; a row is compared exactly if the baseline has a test of its name, with
the last of these, and as the last test of its own category and name; the baseline has a
series in a section exactly if some row is compared, with a bar exactly for these; and as
many rows are compared, and as many bars stand for the baseline, as the comparison has
records with a counterpart. -/
theorem build_agrees (candidate baseline : List ResultGroup) (heading : Heading) :
    let comparison := Comparison.of candidate (some baseline)
    let report := build candidate (some comparison) heading
    List.Forall₂ (Section.Agrees candidate baseline heading) candidate report.sections ∧
      (((placed candidate).map fun p => (p.1, p.2.name)).Nodup →
        List.Forall₂ (fun g s => List.Forall₂ (Row.Contrasts baseline) g.tests s.rows)
          candidate report.sections) ∧
      comparedRows report = report.totals.compared ∧
      baselineBars report = report.totals.compared ∧
      comparison.records.countP (·.baseline.isSome) = report.totals.compared := by
  refine ⟨sections_agree candidate baseline heading, fun hkeys => ?_,
    comparedRows_build candidate baseline heading,
    baselineBars_build candidate baseline heading, (Comparison.compared_eq candidate baseline).symm⟩
  refine forall₂_mapIdx fun _ g hg => ?_
  show List.Forall₂ _ g.tests (g.tests.map _)
  rw [List.forall₂_map_right_iff, List.forall₂_same]
  exact fun t ht => contrasts_of_nodup baseline hkeys (mem_placed hg ht)

/-- A test with one sample. -/
def sampled (name : String) (sample : Float) : TestResult := .ofSamples name 0 [sample] none

/-- Two categories that use a name each, which the baseline has twice. -/
theorem build_agrees_sampled :
    let candidate := [⟨"Basic", [sampled "add" 50.0]⟩, ⟨"Other", [sampled "add" 70.0]⟩]
    let baseline := [⟨"Basic", [sampled "add" 10.0, sampled "add" 100.0]⟩]
    ((placed candidate).map fun p => (p.1, p.2.name)).Nodup ∧
      List.Forall₂ (fun g s => List.Forall₂ (Row.Contrasts baseline) g.tests s.rows) candidate
        (build candidate (some (.of candidate (some baseline))) (.at "now")).sections := by
  intro candidate baseline
  have hkeys : ((placed candidate).map fun p => (p.1, p.2.name)).Nodup := by decide
  exact ⟨hkeys, (build_agrees candidate baseline (.at "now")).2.1 hkeys⟩

end Stopwatch.Report
