import Stopwatch.Proofs.Json.Codec
import Stopwatch.Regression
import Stopwatch.Results.Document
import Stopwatch.Tally

/-!
# What a results document can hold

For every type of a results document, which of its floats must be there, which may be
absent, and what is kept of a value; and that its codec obeys the laws. Times and means
must be there. Only what is computed from a pair of means may be absent: ratios,
differences in percent, speedups and rates.
-/

namespace Stopwatch

open Stopwatch.Decimal (isFinite)
open Json
open Json.Codec (Faithful faithful_record encode_record_ne_null faithful_text faithful_flag
  faithful_natural faithful_float faithful_list faithful_nullable faithful_nullable_text
  faithful_nullable_float)
open Json.Content (whole_none whole_no_float)
open Json.Field (faithful_required faithful_optional)

/-! ### Measurements -/

namespace Memory

theorem Snapshot.faithful : Faithful Snapshot.codec (.plain Snapshot) :=
  (faithful_record
    (.cons (faithful_required Codec.faithful_word64) <|
      .cons (faithful_required Codec.faithful_word64) <|
      .cons (faithful_required Codec.faithful_word64) .nil)
    (by decide) (fun _ => rfl) (fun _ => rfl)).congr
    (fun _ => rfl) (fun _ => rfl) (fun _ => by simp) (fun _ => rfl)

theorem Delta.faithful : Faithful Delta.codec (.plain Delta) :=
  (faithful_record
    (.cons (faithful_required Codec.faithful_signed64) <|
      .cons (faithful_required Codec.faithful_signed64) <|
      .cons (faithful_required Codec.faithful_signed64) .nil)
    (by decide) (fun _ => rfl) (fun _ => rfl)).congr
    (fun _ => rfl) (fun _ => rfl) (fun _ => by simp) (fun _ => rfl)

end Memory

def Summary.content : Content Summary where
  required s := [s.min, s.max, s.mean, s.median, s.stddev, s.total]
  optional _ := []
  fits _ := True
  kept s := s

theorem Summary.faithful : Faithful Summary.codec Summary.content :=
  (faithful_record
    (.cons (faithful_required faithful_float) <|
      .cons (faithful_required faithful_float) <|
      .cons (faithful_required faithful_float) <|
      .cons (faithful_required faithful_float) <|
      .cons (faithful_required faithful_float) <|
      .cons (faithful_required faithful_float) .nil)
    (by decide) (fun _ => rfl) (fun _ => rfl)).congr
    (fun _ => rfl) (fun _ => rfl) (fun _ => by simp [Summary.content]) (fun _ => rfl)

namespace TestResult

/-- All statistics and samples must be there; the rate may be absent. -/
def content : Content TestResult where
  required t := Summary.content.required t.stats ++ t.samples
  optional t := t.opsPerSecond.toList
  fits t := t.iterations < 2 ^ 64 ∧ t.warmup < 2 ^ 64
  kept t := { t with opsPerSecond := t.opsPerSecond.filter isFinite }

/-- The statistics are members of the test itself. -/
theorem faithful : Faithful codec content :=
  (faithful_record
    (.cons (faithful_required faithful_text) <|
      .cons (faithful_required (faithful_natural 64)) <|
      .cons (faithful_required (faithful_natural 64)) <|
      .cons (faithful_required faithful_float) <|
      .cons (faithful_required faithful_float) <|
      .cons (faithful_required faithful_float) <|
      .cons (faithful_required faithful_float) <|
      .cons (faithful_required faithful_float) <|
      .cons (faithful_required faithful_float) <|
      .cons (Field.faithful_list faithful_float) <|
      .cons (faithful_optional
        (faithful_nullable Memory.Delta.faithful (encode_record_ne_null _ _ _)) whole_none) <|
      .cons (faithful_optional faithful_nullable_float whole_no_float) .nil)
    (by decide) (fun _ => rfl) (fun _ => rfl)).congr
    (fun _ => by simp [content, Summary.content]) (fun _ => by simp [content])
    (fun _ => by simp [content]) (fun _ => by simp [content])

end TestResult

namespace ResultGroup

def content : Content ResultGroup where
  required g := g.tests.flatMap TestResult.content.required
  optional g := g.tests.flatMap TestResult.content.optional
  fits g := ∀ t ∈ g.tests, TestResult.content.fits t
  kept g := { g with tests := g.tests.map TestResult.content.kept }

theorem faithful : Faithful codec content :=
  (faithful_record
    (.cons (faithful_required faithful_text) <|
      .cons (Field.faithful_list TestResult.faithful) .nil)
    (by decide) (fun _ => rfl) (fun _ => rfl)).congr
    (fun _ => by simp [content]) (fun _ => by simp [content]) (fun _ => by simp [content])
    (fun _ => rfl)

end ResultGroup

/-! ### Runs of whole processes -/

namespace ProcessRun

def content : Content ProcessRun where
  required r := [r.duration]
  optional _ := []
  fits _ := True
  kept r := r

theorem faithful : Faithful codec content :=
  (faithful_record
    (.cons (faithful_required faithful_text) <|
      .cons (faithful_required faithful_text) <|
      .cons (faithful_required faithful_float) <|
      .cons (faithful_required faithful_text) <|
      .cons (faithful_required faithful_flag) <|
      .cons (faithful_optional faithful_nullable_text whole_none) <|
      .cons (faithful_optional faithful_nullable_text whole_none) .nil)
    (by decide) (fun _ => rfl) (fun _ => rfl)).congr
    (fun _ => by simp [content]) (fun _ => by simp [content]) (fun _ => by simp [content])
    (fun _ => by simp [content])

end ProcessRun

namespace RunPair

def content : Content RunPair where
  required p := p.runs.map ProcessRun.duration
  optional _ := []
  fits _ := True
  kept p := p

theorem faithful : Faithful codec content :=
  (faithful_record
    (.cons (faithful_required faithful_text) <|
      .cons (faithful_required (faithful_list ProcessRun.faithful)) <|
      .cons (faithful_required (faithful_list ProcessRun.faithful)) .nil)
    (by decide) (fun _ => rfl) (fun _ => rfl)).congr
    (fun _ => by simp [content, runs, ProcessRun.content, List.map_eq_flatMap])
    (fun _ => by simp [content, ProcessRun.content])
    (fun _ => by simp [content, ProcessRun.content])
    (fun _ => by simp [content, ProcessRun.content])

end RunPair

namespace Tally

def content : Content Tally where
  required t := [t.averageCandidate, t.averageBaseline, t.overallSpeedup]
  optional _ := []
  fits t :=
    t.total < 2 ^ 64 ∧ t.successful < 2 ^ 64 ∧ t.failed < 2 ^ 64 ∧ t.candidateWins < 2 ^ 64 ∧
      t.baselineWins < 2 ^ 64
  kept t := t

theorem faithful : Faithful codec content :=
  (faithful_record
    (.cons (faithful_required (faithful_natural 64)) <|
      .cons (faithful_required (faithful_natural 64)) <|
      .cons (faithful_required (faithful_natural 64)) <|
      .cons (faithful_required (faithful_natural 64)) <|
      .cons (faithful_required (faithful_natural 64)) <|
      .cons (faithful_required faithful_float) <|
      .cons (faithful_required faithful_float) <|
      .cons (faithful_required faithful_float) <|
      .cons (faithful_required (faithful_list faithful_text)) .nil)
    (by decide) (fun _ => rfl) (fun _ => rfl)).congr
    (fun _ => by simp [content]) (fun _ => by simp [content]) (fun _ => by simp [content])
    (fun _ => by simp [content])

end Tally

/-! ### Comparisons -/

namespace Regression

def content : Content Regression where
  required r := [r.baselineMean, r.currentMean, r.percentChange]
  optional _ := []
  fits _ := True
  kept r := r

theorem faithful : Faithful codec content :=
  (faithful_record
    (.cons (faithful_required faithful_text) <|
      .cons (faithful_required faithful_text) <|
      .cons (faithful_required faithful_float) <|
      .cons (faithful_required faithful_float) <|
      .cons (faithful_required faithful_float) .nil)
    (by decide) (fun _ => rfl) (fun _ => rfl)).congr
    (fun _ => by simp [content]) (fun _ => by simp [content]) (fun _ => by simp [content])
    (fun _ => by simp [content])

end Regression

theorem Side.faithful : Faithful Side.codec (.plain Side) :=
  Codec.faithful_word fun a => by cases a <;> decide

namespace Spread

def content : Content Spread where
  required s := [s.mean, s.median, s.min, s.max, s.stddev]
  optional _ := []
  fits _ := True
  kept s := s

theorem faithful : Faithful codec content :=
  (faithful_record
    (.cons (faithful_required faithful_float) <|
      .cons (faithful_required faithful_float) <|
      .cons (faithful_required faithful_float) <|
      .cons (faithful_required faithful_float) <|
      .cons (faithful_required faithful_float) .nil)
    (by decide) (fun _ => rfl) (fun _ => rfl)).congr
    (fun _ => by simp [content]) (fun _ => by simp [content]) (fun _ => by simp [content])
    (fun _ => by simp [content])

end Spread

namespace Comparison

namespace Record

/-- The statistics of both sides must be there; what they are compared by may be absent. -/
def content : Content Record where
  required r :=
    Spread.content.required r.candidate ++ r.baseline.elim [] Spread.content.required
  optional r := r.ratio.toList ++ r.percentDiff.toList ++ r.speedup.toList
  fits _ := True
  kept r :=
    { r with
      ratio := r.ratio.filter isFinite
      percentDiff := r.percentDiff.filter isFinite
      speedup := r.speedup.filter isFinite }

theorem faithful : Faithful codec content :=
  (faithful_record
    (.cons (faithful_required faithful_text) <|
      .cons (faithful_required faithful_text) <|
      .cons (faithful_required Spread.faithful) <|
      .cons (Field.faithful_nullable
        (faithful_nullable Spread.faithful (encode_record_ne_null _ _ _)) whole_none) <|
      .cons (faithful_optional faithful_nullable_float whole_no_float) <|
      .cons (faithful_optional faithful_nullable_float whole_no_float) <|
      .cons (faithful_optional (faithful_nullable Side.faithful fun _ => nofun) whole_none) <|
      .cons (faithful_optional faithful_nullable_float whole_no_float) .nil)
    (by decide) (fun _ => rfl) (fun _ => rfl)).congr
    (fun _ => by simp [content]) (fun _ => by simp [content, Spread.content])
    (fun _ => by simp [content, Spread.content]) (fun _ => by simp [content, Spread.content])

end Record

namespace Totals

def content : Content Totals where
  required _ := []
  optional _ := []
  fits t := t.candidateTests < 2 ^ 64 ∧ t.baselineTests < 2 ^ 64 ∧ t.compared < 2 ^ 64
  kept t := t

theorem faithful : Faithful codec content :=
  (faithful_record
    (.cons (faithful_required (faithful_natural 64)) <|
      .cons (faithful_required (faithful_natural 64)) <|
      .cons (faithful_required (faithful_natural 64)) .nil)
    (by decide) (fun _ => rfl) (fun _ => rfl)).congr
    (fun _ => by simp [content]) (fun _ => by simp [content]) (fun _ => by simp [content])
    (fun _ => by simp [content])

end Totals

def content : Content Comparison where
  required c := c.records.flatMap Record.content.required
  optional c := c.records.flatMap Record.content.optional
  fits c := Totals.content.fits c.totals
  kept c := { c with records := c.records.map Record.content.kept }

theorem faithful : Faithful codec content :=
  (faithful_record
    (.cons (faithful_required Totals.faithful) <|
      .cons (faithful_required (faithful_list Record.faithful)) .nil)
    (by decide) (fun _ => rfl) (fun _ => rfl)).congr
    (fun _ => by simp [content, Totals.content]) (fun _ => by simp [content, Totals.content])
    (fun _ => by simp [content, Record.content]) (fun _ => by simp [content, Totals.content])

end Comparison

/-! ### The document -/

namespace Environment

def content : Content Environment where
  required _ := []
  optional _ := []
  fits e := e.schemaVersion < 2 ^ 32 ∧ e.cpuCount < 2 ^ 64
  kept e := e

theorem faithful : Faithful codec content :=
  (faithful_record
    (.cons (faithful_required (faithful_natural 32)) <|
      .cons (faithful_required faithful_text) <|
      .cons (faithful_required faithful_text) <|
      .cons (faithful_required faithful_text) <|
      .cons (faithful_required faithful_text) <|
      .cons (faithful_required (faithful_natural 64)) <|
      .cons (faithful_optional faithful_nullable_text whole_none) <|
      .cons (faithful_optional faithful_nullable_text whole_none) <|
      .cons (faithful_optional faithful_nullable_text whole_none) .nil)
    (by decide) (fun _ => rfl) (fun _ => rfl)).congr
    (fun _ => by simp [content]) (fun _ => by simp [content]) (fun _ => by simp [content])
    (fun _ => by simp [content])

theorem faithful_nullable_codec : Faithful codec.nullable content.nullable :=
  faithful_nullable faithful (encode_record_ne_null _ _ _)

end Environment

namespace Results

def content : Content Results where
  required r := r.groups.flatMap ResultGroup.content.required ++
    r.comparison.elim [] Comparison.content.required ++
    (r.processRuns.getD []).flatMap RunPair.content.required
  optional r := r.groups.flatMap ResultGroup.content.optional ++
    r.comparison.elim [] Comparison.content.optional
  fits r :=
    (∀ g ∈ r.groups, ResultGroup.content.fits g) ∧
      (∀ c ∈ r.comparison, Comparison.content.fits c) ∧
      ∀ e ∈ r.environment, Environment.content.fits e
  kept r :=
    { r with
      groups := r.groups.map ResultGroup.content.kept
      comparison := r.comparison.map Comparison.content.kept }

theorem faithful : Faithful codec content :=
  (faithful_record
    (.cons (faithful_required faithful_text) <|
      .cons (faithful_required (faithful_list ResultGroup.faithful)) <|
      .cons (Field.faithful_nullable
        (faithful_nullable Comparison.faithful (encode_record_ne_null _ _ _)) whole_none) <|
      .cons (faithful_optional
        (faithful_nullable (faithful_list RunPair.faithful) fun _ => nofun) whole_none) <|
      .cons (faithful_optional Environment.faithful_nullable_codec whole_none) .nil)
    (by decide) (fun _ => rfl) (fun _ => rfl)).congr
    (fun r => by cases hruns : r.processRuns <;> simp [content, hruns, Environment.content])
    (fun r => by
      cases hruns : r.processRuns <;>
        simp [content, hruns, Environment.content, RunPair.content])
    (fun _ => by simp [content, RunPair.content])
    (fun _ => by simp [content, RunPair.content, Environment.content])

end Results

end Stopwatch
