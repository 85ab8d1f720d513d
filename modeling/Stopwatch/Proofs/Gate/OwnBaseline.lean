import Stopwatch.Proofs.Gate.Calls
import Stopwatch.Proofs.Regression.Detection

/-!
# Results gated against themselves

Results that were saved as a baseline and are gated against it pass, if their means are read
as they were written. A mean that is read as its lower neighbour makes the gate fail at a
threshold of zero: reading rounds twice, so there are such means.

- `run_act_of_saved`: the next call judges by what is read of what was saved;
- `meansOf_of_reread`: what is read has the same means;
- `passes_own_baseline`: so results pass;
- `fails_own_baseline`: a mean of `1.4000000000000001` does not.
-/

namespace Stopwatch.Gate

open Stopwatch.Json
open Stopwatch.Json.Literal (ReadsBack)
open Stopwatch.Regression (usableTests meansOf detect detect_self)
open Stopwatch.System (World)

section
variable {groups groups' : List ResultGroup}

theorem isUsable_of_reread {t t' : TestResult} (h : t.Reread t')
    (hmean : ReadsBack t.stats.mean) : t'.isUsable = t.isUsable := by
  unfold TestResult.isUsable
  rw [h.isEmpty, h.mean hmean]

/-- Tests whose means read back are read with the same usable means. -/
theorem meansOf_of_reread (h : List.Forall₂ ResultGroup.Reread groups groups')
    (hmeans : ∀ t ∈ ResultGroup.allTests groups, ReadsBack t.stats.mean) :
    meansOf groups' = meansOf groups := by
  have htests := allTests_of_reread h
  unfold meansOf
  rw [List.foldl_filter, List.foldl_filter]
  generalize ResultGroup.allTests groups = tests at htests hmeans
  generalize ResultGroup.allTests groups' = tests' at htests
  generalize ([] : List (String × Float)) = means
  induction htests generalizing means with
  | nil => rfl
  | cons htest _ ih =>
    obtain ⟨hmean, hmeans⟩ := List.forall_mem_cons.mp hmeans
    rw [List.foldl_cons, List.foldl_cons, isUsable_of_reread htest hmean, htest.name,
      htest.mean hmean]
    exact ih hmeans _

/-- Nothing regresses against what is read of it. -/
theorem detect_of_reread (h : List.Forall₂ ResultGroup.Reread groups groups')
    (hmeans : ∀ t ∈ ResultGroup.allTests groups, ReadsBack t.stats.mean)
    (hnames : ((usableTests groups).map TestResult.name).Nodup) {threshold : Float}
    (hthreshold : 0.0 ≤ threshold) : detect groups groups' threshold = [] := by
  have hself := detect_self hnames hthreshold
  unfold detect at hself ⊢
  rw [meansOf_of_reread h hmeans]
  exact hself

end

section
variable {w w' : World} {path : String} {results r : Results}

/-- After results with a test were saved to a file, every call judges by what is read of
them. -/
theorem run_act_of_saved (hsound : w.disk.Sound) (htests : results.hasTests = true)
    (hread : Results.codec.read? results.render = some r)
    (habsent : finding w path = .absent) {threshold : Float} {saving : Gate}
    (hsave : (Call.act path ⟨results, threshold⟩).run w = (.ok saving, w'))
    (haway : ¬w'.LeadsAway path) (call : Call) :
    (call.act path).run w' = (.ok (judge call.current r call.threshold), w') := by
  obtain ⟨_, hkept⟩ := kept_of_run_act hsound (.inl habsent) hsave
  have hsame : r.hasTests = true := (Results.hasTests_of_read? hread).trans htests
  refine run_act_of_usable ?_ call
  rw [finding, World.text_of_content (hkept.resolve_right haway)]
  show Finding.ofText results.render = .usable r
  unfold Finding.ofText
  rw [hread]
  exact if_pos hsame

/-- **Results pass their own baseline**, if the path leads to a file, and what was saved is
read with the means that were written. -/
theorem passes_own_baseline {threshold : Float} {saving : Gate} (hsound : w.disk.Sound)
    (htests : results.hasTests = true)
    (hread : (Results.codec.read? results.render).isSome = true)
    (hmeans : ∀ t ∈ ResultGroup.allTests results.groups, ReadsBack t.stats.mean)
    (hnames : ((usableTests results.groups).map TestResult.name).Nodup)
    (hthreshold : 0.0 ≤ threshold) (habsent : finding w path = .absent)
    (hsave : (Call.act path ⟨results, threshold⟩).run w = (.ok saving, w'))
    (haway : ¬w'.LeadsAway path) :
    ∃ gate, (Call.act path ⟨results, threshold⟩).run w' = (.ok gate, w') ∧
      gate.success = true ∧ gate.regressions = [] ∧ gate.saved = false := by
  obtain ⟨r, hread⟩ := Option.isSome_iff_exists.mp hread
  have hnone : detect results.groups r.groups threshold = [] :=
    detect_of_reread (Results.reread_of_read? hread) hmeans hnames hthreshold
  refine ⟨judge results r threshold,
    run_act_of_saved hsound htests hread habsent hsave haway _, ?_, hnone, rfl⟩
  show (detect results.groups r.groups threshold).isEmpty = true
  rw [hnone]
  rfl

end

/-- Results of one test with one sample. -/
def single (x : Float) : Results where
  timestamp := "2026-01-02T03:04:05Z"
  groups := [⟨"A", [⟨"x", 1, 0, ⟨x, x, x, x, 0.0, x⟩, [x], none, none⟩]⟩]
  comparison := none
  processRuns := none
  environment := none

/-- A mean that is read as it was written. -/
theorem passes_own_baseline_single :
    (single 1.5).hasTests = true ∧ (Results.codec.read? (single 1.5).render).isSome = true ∧
    ∃ saving gate w', (Call.act "b.json" ⟨single 1.5, 0.0⟩).run default = (.ok saving, w') ∧
      (Call.act "b.json" ⟨single 1.5, 0.0⟩).run w' = (.ok gate, w') ∧ gate.success = true := by
  have htests : (single 1.5).hasTests = true := by decide
  have hread : (Results.codec.read? (single 1.5).render).isSome = true := by
    rw [Codec.read?_texts Results.faithful _ _ (Results.render_mem_texts _)]
    decide +kernel
  have hok : ((Call.act "b.json" ⟨single 1.5, 0.0⟩).run default).1.isOk = true := by
    decide +kernel
  have haway : ¬((Call.act "b.json" ⟨single 1.5, 0.0⟩).run default).2.LeadsAway "b.json" := by
    decide +kernel
  obtain ⟨saving, w', hsave⟩ := exists_of_isOk hok
  rw [hsave] at haway
  obtain ⟨gate, hrun, hsuccess, _⟩ := passes_own_baseline (by decide) htests hread
    (by decide +kernel) (by decide) (by decide) rfl hsave haway
  exact ⟨htests, hread, saving, gate, w', hsave, hrun, hsuccess⟩

/-- All floats are finite and the names distinct. But the mean of the second call is higher
than that of the first, which was read as `1.4`. -/
theorem fails_own_baseline :
    let results := single 1.4000000000000001
    let call : Call := ⟨results, 0.0⟩
    results.hasTests = true ∧ AllFinite (Results.content.required results) ∧
    AllFinite (Results.content.optional results) ∧
    ((usableTests results.groups).map TestResult.name).Nodup ∧
    finding default "b.json" = .absent ∧
    ∃ saving gate w', (call.act "b.json").run default = (.ok saving, w') ∧
      (call.act "b.json").run w' = (.ok gate, w') ∧
      saving.saved = true ∧ gate.success = false := by
  intro results call
  have htests : results.hasTests = true := by decide
  have hread : Results.codec.read? results.render = some (single 1.4) := by
    rw [Codec.read?_texts Results.faithful _ _ (Results.render_mem_texts _)]
    decide +kernel
  have hsound : (default : World).disk.Sound := by decide
  have hok : ((call.act "b.json").run default).1.isOk = true := by
    decide +kernel
  have haway : ¬((call.act "b.json").run default).2.LeadsAway "b.json" := by
    decide +kernel
  obtain ⟨saving, w', hsave⟩ := exists_of_isOk hok
  rw [hsave] at haway
  obtain ⟨rfl, _⟩ := kept_of_run_act hsound (.inl rfl) hsave
  have hjudged := run_act_of_saved hsound htests hread rfl hsave haway call
  have hfails : (judge results (single 1.4) 0.0).success = false := by decide +kernel
  refine ⟨htests, by decide, by decide, by decide, rfl, ?_⟩
  exact ⟨passSaving results, judge results (single 1.4) 0.0, w', hsave, hjudged, rfl, hfails⟩

end Stopwatch.Gate
