import Stopwatch.Proofs.Results.Contents
import Stopwatch.Report.Record

/-!
# Reading documents back

What a report can hold, and the laws of its codecs. With them, every kind of document is
read back from its own texts, but for floats that are not finite, and what is read from
any other text is written and read without change.

- `codecs_roundTrip`: the laws for all kinds of documents.
-/

namespace Stopwatch

open Stopwatch.Decimal (isFinite)
open Json
open Json.Codec (Faithful faithful_record encode_record_ne_null faithful_text faithful_flag
  faithful_natural faithful_float faithful_list faithful_nullable faithful_nullable_float)
open Json.Content (whole_none)
open Json.Field (faithful_required)

/-! ### Reports -/

theorem Verdict.faithful : Faithful Verdict.codec (.plain Verdict) :=
  Codec.faithful_word fun v => by cases v <;> decide

namespace Report

namespace Heading

def content : Content Heading where
  required _ := []
  optional _ := []
  fits h := ∀ e ∈ h.environment, Environment.content.fits e
  kept h := h

theorem faithful : Faithful codec content :=
  (faithful_record
    (.cons (faithful_required faithful_text) <|
      .cons (faithful_required faithful_text) <|
      .cons (faithful_required faithful_text) <|
      .cons (faithful_required faithful_text) <|
      .cons (Field.faithful_nullable Environment.faithful_nullable_codec whole_none) .nil)
    (by decide) (fun _ => rfl) (fun _ => rfl)).congr
    (fun _ => by simp [content, Environment.content])
    (fun _ => by simp [content, Environment.content])
    (fun _ => by simp [content]) (fun _ => by simp [content, Environment.content])

end Heading

namespace Totals

def content : Content Totals where
  required _ := []
  optional _ := []
  fits t := t.categories < 2 ^ 64 ∧ t.tests < 2 ^ 64 ∧ t.compared < 2 ^ 64
  kept t := t

theorem faithful : Faithful codec content :=
  (faithful_record
    (.cons (faithful_required (faithful_natural 64)) <|
      .cons (faithful_required (faithful_natural 64)) <|
      .cons (faithful_required (faithful_natural 64)) .nil)
    (by decide) (fun _ => rfl) (fun _ => rfl)).congr
    (fun _ => by simp [content]) (fun _ => by simp [content]) (fun _ => by simp [content])
    (fun _ => by simp [content])

end Totals

namespace Contrast

def content : Content Contrast where
  required c := [c.percentDiff, c.baselineMean]
  optional _ := []
  fits _ := True
  kept c := c

theorem faithful : Faithful codec content :=
  (faithful_record
    (.cons (faithful_required Verdict.faithful) <|
      .cons (faithful_required faithful_float) <|
      .cons (faithful_required faithful_float) .nil)
    (by decide) (fun _ => rfl) (fun _ => rfl)).congr
    (fun _ => by simp [content]) (fun _ => by simp [content]) (fun _ => by simp [content])
    (fun _ => by simp [content])

end Contrast

namespace Row

/-- A row has no float that may be absent: even the difference in percent must be there if
there is a contrast. -/
def content : Content Row where
  required r :=
    [r.mean, r.median, r.min, r.max, r.stddev] ++ r.contrast.elim [] Contrast.content.required
  optional _ := []
  fits _ := True
  kept r := r

theorem faithful : Faithful codec content :=
  (faithful_record
    (.cons (faithful_required faithful_text) <|
      .cons (faithful_required faithful_float) <|
      .cons (faithful_required faithful_float) <|
      .cons (faithful_required faithful_float) <|
      .cons (faithful_required faithful_float) <|
      .cons (faithful_required faithful_float) <|
      .cons (Field.faithful_nullable
        (faithful_nullable Contrast.faithful (encode_record_ne_null _ _ _)) whole_none) .nil)
    (by decide) (fun _ => rfl) (fun _ => rfl)).congr
    (fun _ => by simp [content]) (fun _ => by simp [content, Contrast.content])
    (fun _ => by simp [content, Contrast.content])
    (fun _ => by simp [content, Contrast.content])

end Row

namespace Series

/-- Every point may be absent. -/
def content : Content Series where
  required _ := []
  optional s := s.data.flatMap Option.toList
  fits _ := True
  kept s := { s with data := s.data.map (Option.filter isFinite) }

theorem faithful : Faithful codec content :=
  (faithful_record
    (.cons (faithful_required faithful_text) <|
      .cons (faithful_required (faithful_list faithful_nullable_float)) .nil)
    (by decide) (fun _ => rfl) (fun _ => rfl)).congr
    (fun _ => by simp [content]) (fun _ => by simp [content])
    (fun _ => by simp [content]) (fun _ => by simp [content])

end Series

namespace Chart

def content : Content Chart where
  required _ := []
  optional c := c.series.flatMap Series.content.optional
  fits _ := True
  kept c := { c with series := c.series.map Series.content.kept }

theorem faithful : Faithful codec content :=
  (faithful_record
    (.cons (faithful_required faithful_text) <|
      .cons (faithful_required (faithful_list faithful_text)) <|
      .cons (faithful_required (faithful_list Series.faithful)) .nil)
    (by decide) (fun _ => rfl) (fun _ => rfl)).congr
    (fun _ => by simp [content, Series.content]) (fun _ => by simp [content])
    (fun _ => by simp [content, Series.content]) (fun _ => by simp [content])

end Chart

namespace Section

def content : Content Section where
  required s := s.rows.flatMap Row.content.required
  optional s := Chart.content.optional s.chart
  fits _ := True
  kept s := { s with chart := Chart.content.kept s.chart }

theorem faithful : Faithful codec content :=
  (faithful_record
    (.cons (faithful_required faithful_text) <|
      .cons (faithful_required (faithful_list Row.faithful)) <|
      .cons (faithful_required Chart.faithful) .nil)
    (by decide) (fun _ => rfl) (fun _ => rfl)).congr
    (fun _ => by simp [content, Chart.content]) (fun _ => by simp [content, Row.content])
    (fun _ => by simp [content, Chart.content, Row.content])
    (fun _ => by simp [content, Row.content])

end Section

theorem FailedRun.faithful : Faithful FailedRun.codec (.plain FailedRun) :=
  (faithful_record
    (.cons (faithful_required faithful_text) <|
      .cons (faithful_required faithful_text) <|
      .cons (faithful_required faithful_text) .nil)
    (by decide) (fun _ => rfl) (fun _ => rfl)).congr
    (fun _ => rfl) (fun _ => rfl) (fun _ => by simp) (fun _ => rfl)

def content : Content Report where
  required r := r.sections.flatMap Section.content.required
  optional r := r.sections.flatMap Section.content.optional
  fits r := Heading.content.fits r.heading ∧ Totals.content.fits r.totals
  kept r := { r with sections := r.sections.map Section.content.kept }

theorem faithful : Faithful codec content :=
  (faithful_record
    (.cons (faithful_required Heading.faithful) <|
      .cons (faithful_required Totals.faithful) <|
      .cons (faithful_required faithful_flag) <|
      .cons (faithful_required (faithful_list Section.faithful)) <|
      .cons (Field.faithful_sparse FailedRun.faithful) .nil)
    (by decide) (fun _ => rfl) (fun _ => rfl)).congr
    (fun _ => by simp [content, Heading.content, Totals.content])
    (fun _ => by simp [content, Heading.content, Totals.content])
    (fun _ => by simp [content, Section.content])
    (fun _ => by simp [content, Heading.content, Totals.content])

end Report

/-! ### All documents -/

/-- **Every kind of document is read back from its texts.** -/
theorem codecs_roundTrip :
    TestResult.codec.RoundTrips TestResult.content ∧
    ResultGroup.codec.RoundTrips ResultGroup.content ∧
    ProcessRun.codec.RoundTrips ProcessRun.content ∧
    RunPair.codec.RoundTrips RunPair.content ∧
    Comparison.Record.codec.RoundTrips Comparison.Record.content ∧
    Comparison.codec.RoundTrips Comparison.content ∧
    Environment.codec.RoundTrips Environment.content ∧
    Results.codec.RoundTrips Results.content ∧
    Report.codec.RoundTrips Report.content ∧
    Regression.codec.RoundTrips Regression.content ∧
    Tally.codec.RoundTrips Tally.content ∧
    Memory.Snapshot.codec.RoundTrips (.plain Memory.Snapshot) ∧
    Memory.Delta.codec.RoundTrips (.plain Memory.Delta) ∧
    Summary.codec.RoundTrips Summary.content ∧
    ∀ r : Results, r.render ∈ Results.codec.texts r :=
  ⟨TestResult.faithful.roundTrips, ResultGroup.faithful.roundTrips,
    ProcessRun.faithful.roundTrips, RunPair.faithful.roundTrips,
    Comparison.Record.faithful.roundTrips, Comparison.faithful.roundTrips,
    Environment.faithful.roundTrips, Results.faithful.roundTrips, Report.faithful.roundTrips,
    Regression.faithful.roundTrips, Tally.faithful.roundTrips,
    Memory.Snapshot.faithful.roundTrips, Memory.Delta.faithful.roundTrips,
    Summary.faithful.roundTrips, fun _ => by simp [Results.render, Codec.texts]⟩

/-- A test with an infinite rate. -/
def instantTest : TestResult where
  name := "\"a\"\n"
  iterations := 2
  warmup := 1
  stats := ⟨1.5, 2.25, 1.875, 1.875, 0.375, 3.75⟩
  samples := [1.5, 2.25]
  memory := none
  opsPerSecond := some (1.0 / 0.0)

/-- The test is read without its rate, and from then on it stays the same. -/
theorem codecs_roundTrip_instantTest :
    TestResult.content.Written instantTest ∧
    ∃ t, TestResult.codec.read? (TestResult.codec.print instantTest) = some t ∧
      t.opsPerSecond = none ∧
      TestResult.codec.read? (TestResult.codec.printIndented t) = some t := by
  have hwritten : TestResult.content.Written instantTest :=
    ⟨⟨by decide, by decide⟩, by decide, by decide +kernel, by decide⟩
  have hread := codecs_roundTrip.1.reads instantTest hwritten _ List.mem_cons_self
  have hreread := codecs_roundTrip.1.rereads _ _ hread (by decide +kernel) (by decide +kernel) _
    (List.mem_cons_of_mem _ List.mem_cons_self)
  exact ⟨hwritten, _, hread, by decide +kernel, hreread.1⟩

end Stopwatch
