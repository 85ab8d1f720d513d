import Stopwatch.Proofs.Comparison.Pairing
import Stopwatch.Proofs.CommandLine.Checks
import Stopwatch.Proofs.Session.Contest

/-!
# Comparing two engines

After its checks, a comparison carries out all turns, asks both engines for their versions, and puts its
artifacts into the results directory. Only a process under a limit beyond the clock ends it before.

- `RunPair.IsUsable`, `tally_failed`: the files that count as failed;
- `Stored`, `Reported`: what the sink does, and what follows the turns;
- `compare_leaves`: what a comparison leaves, whatever the arguments, the host and the engines.
-/

namespace Stopwatch

/-! ### Usable runs -/

/-- A run counts as a timing. -/
def ProcessRun.IsUsable (r : ProcessRun) : Prop := r.succeeded = true ∧ 0.0 ≤ r.duration

/-- Each side has a run that counts as a timing. -/
def RunPair.IsUsable (p : RunPair) : Prop :=
  (∃ r ∈ p.candidate, r.IsUsable) ∧ ∃ r ∈ p.baseline, r.IsUsable

theorem ProcessRun.sample?_isSome (r : ProcessRun) : r.sample?.isSome = true ↔ r.IsUsable := by
  unfold sample? IsUsable
  split <;> simp_all

theorem RunPair.reduce_isSome (name : String) (runs : List ProcessRun) :
    (reduce name runs).isSome = true ↔ ∃ r ∈ runs, r.IsUsable := by
  have hsamples : (runs.filterMap ProcessRun.sample?).isEmpty = false ↔ ∃ r ∈ runs, r.IsUsable := by
    rw [List.isEmpty_eq_false_iff_exists_mem]
    constructor
    · rintro ⟨duration, hduration⟩
      obtain ⟨r, hr, hsample⟩ := List.mem_filterMap.mp hduration
      exact ⟨r, hr, r.sample?_isSome.mp (by rw [hsample]; rfl)⟩
    · rintro ⟨r, hr, husable⟩
      obtain ⟨duration, hduration⟩ := Option.isSome_iff_exists.mp (r.sample?_isSome.mpr husable)
      exact ⟨duration, List.mem_filterMap.mpr ⟨r, hr, hduration⟩⟩
  rw [← hsamples, reduce]
  split <;> simp_all

theorem tally_failed (pairs : List RunPair) :
    (Tally.ofPairs pairs).failed = 0 ↔ ∀ p ∈ pairs, p.IsUsable := by
  have hfailed : (Tally.ofPairs pairs).failed = pairs.length - (Tally.ofPairs pairs).successful := rfl
  have hcount : (Tally.ofPairs pairs).failed = 0 ↔ (Tally.ofPairs pairs).successful = pairs.length := by
    have hle := List.countP_le_length (p := fun p : RunPair =>
      p.candidateResult?.isSome && p.baselineResult?.isSome) (l := pairs)
    rw [← RunPair.tally_successful] at hle
    omega
  rw [hcount, RunPair.tally_successful, List.countP_eq_length]
  refine forall₂_congr fun p _ => ?_
  rw [Bool.and_eq_true, RunPair.candidateResult?, RunPair.baselineResult?, RunPair.reduce_isSome,
    RunPair.reduce_isSome]
  rfl

variable {σ : Type} {host : Host (StateM σ)}

/-! ### What follows the turns -/

/-- The question for the version of an engine. -/
def LocatedEngine.question (engine : LocatedEngine) : Invocation :=
  ⟨engine.path, ["--version"], none, some versionLimit⟩

theorem does_version (engine : LocatedEngine) :
    Does (engine.version host.logged) (engine.version host)
      fun _ deeds => ∃ answer, deeds = [.execute engine.question answer] := by
  refine (Does.noted (.execute engine.question) _).bind fun answer deeds hdeeds => ?_
  have hanswer : ∃ answer, deeds ++ [] = [.execute engine.question answer] := by
    rw [List.append_nil]
    exact ⟨answer, hdeeds⟩
  cases answer with
  | error e => exact Does.pure hanswer
  | ok f =>
    dsimp only
    split <;> exact Does.pure hanswer

/-- What a directory for artifacts does with a page and a document, step by step. -/
inductive Stored (path stamp page document : String) : Except Fault Artifact → List Deed → Prop
  | noDirectory (e : IoError) :
      Stored path stamp page document (.error (.io e)) [.createDirectories path (.error e)]
  | noReport (e : IoError) :
      Stored path stamp page document (.error (.io e))
        [.createDirectories path (.ok ()),
          .write (Artifact.within path stamp).report page.toUTF8 (.error e)]
  | noResults (e : IoError) (answer : Except IoError Unit) :
      Stored path stamp page document (.error (.io e))
        [.createDirectories path (.ok ()),
          .write (Artifact.within path stamp).report page.toUTF8 (.ok ()),
          .write (Artifact.within path stamp).results document.toUTF8 (.error e),
          .remove (Artifact.within path stamp).report answer]
  /-- Both artifacts could be written. -/
  | both :
      Stored path stamp page document (.ok (Artifact.within path stamp))
        [.createDirectories path (.ok ()),
          .write (Artifact.within path stamp).report page.toUTF8 (.ok ()),
          .write (Artifact.within path stamp).results document.toUTF8 (.ok ())]

theorem does_directory (path stamp page document : String) :
    Does (Sink.directory host.logged path stamp page document)
      (Sink.directory host path stamp page document) (Stored path stamp page document) := by
  refine (Does.noted (.createDirectories path) _).bind fun made first hfirst => ?_
  subst hfirst
  cases made with
  | error e => exact Does.pure (.noDirectory e)
  | ok _ =>
    refine (Does.noted (.write _ page.toUTF8) _).bind fun written second hsecond => ?_
    subst hsecond
    cases written with
    | error e => exact Does.pure (.noReport e)
    | ok _ =>
      refine (Does.noted (.write _ document.toUTF8) _).bind fun written third hthird => ?_
      subst hthird
      cases written with
      | error e =>
        refine (Does.noted (.remove _) _).bind fun answer last hlast => ?_
        subst hlast
        exact Does.pure (.noResults e answer)
      | ok _ => exact Does.pure .both

namespace CommandLine.Program

/-- After the turns both engines are asked for their versions, and the report goes to the results
directory. Its document has all runs, in order. The exit code is zero exactly if both artifacts could be
written and every file has a usable run on each side. -/
inductive Reported (directory : String) (candidate baseline : LocatedEngine) (pairs : List RunPair) :
    Output → List Deed → Prop
  | mk {first second : Except ProcessError Finished} {stamp page : String} {results : Results}
      {answer : Except Fault Artifact} {stored : List Deed} {output : Output}
      (hruns : results.processRuns = some pairs)
      (hstored : Stored directory stamp page results.render answer stored)
      (hzero : output.code = 0 ↔ (∃ artifact, answer = .ok artifact) ∧ ∀ p ∈ pairs, p.IsUsable)
      (hcode : output.code = 0 ∨ output.code = 1) :
      Reported directory candidate baseline pairs output
        ([.execute candidate.question first, .execute baseline.question second] ++ stored)

theorem does_reportPairs (common : Common) (directory : String) (candidate baseline : LocatedEngine)
    (pairs : List RunPair) :
    Does (reportPairs host.logged common directory candidate baseline pairs)
      (reportPairs host common directory candidate baseline pairs)
      (Reported directory candidate baseline pairs) := by
  have hlook := host.logged_looksAlike
  refine Does.afterLooking (fun log => (hlook log).captureEnvironment common.plan.profile)
    fun environment _ => ?_
  refine (does_version candidate).bind fun candidateVersion first hfirst => ?_
  refine (does_version baseline).bind fun baselineVersion second hsecond => ?_
  refine Does.afterLooking (fun log => (hlook log).currentMoment) fun moment _ => ?_
  obtain ⟨firstAnswer, rfl⟩ := hfirst
  obtain ⟨secondAnswer, rfl⟩ := hsecond
  refine (does_directory directory moment.stamp _ _).bind fun answer stored hstored => ?_
  have hruns : (comparisonReport candidate baseline pairs
      { environment with candidateVersion, baselineVersion } moment).2.processRuns = some pairs := rfl
  cases answer with
  | error e =>
    refine Does.pure ?_
    rw [List.append_nil, ← List.append_assoc]
    have hcode : (Output.fault (comparisonText candidate baseline (.ofPairs pairs)) e).code = 1 := by
      cases hstored <;> rfl
    refine .mk hruns hstored ?_ (.inr hcode)
    rw [hcode]
    exact iff_of_false Nat.one_ne_zero fun ⟨⟨artifact, hok⟩, _⟩ => by cases hok
  | ok artifact =>
    refine Does.pure ?_
    rw [List.append_nil, ← List.append_assoc]
    refine .mk hruns hstored ?_ ?_
    · rw [and_iff_right ⟨artifact, rfl⟩, ← tally_failed]
      by_cases hfailed : (Tally.ofPairs pairs).failed = 0 <;> simp [Output.codeOf, hfailed]
    · by_cases hfailed : (Tally.ofPairs pairs).failed = 0 <;> simp [Output.codeOf, hfailed]

/-! ### Whole comparisons -/

/-- The contest of a comparison. -/
def contestOn (request : CompareRequest) (files : List String) : Contest :=
  ⟨some request.candidate, request.baseline, request.settings, files⟩

/-- What becomes of a comparison after its checks. -/
inductive Compared (host : Host (StateM σ)) (directory : String) (contest : Contest)
    (candidate baseline : LocatedEngine) : Output → List Deed → Prop
  /-- All turns were carried out, whatever came of them, and the report followed. -/
  | reported {pairs : List RunPair} {turns finish : List Deed} {output : Output}
      (hran : contest.Ran host pairs turns)
      (hreported : Reported directory candidate baseline pairs output finish) :
      Compared host directory contest candidate baseline output (turns ++ finish)
  /-- The turns were carried out up to one with a limit beyond the clock, and nothing followed. -/
  | broken {deeds : List Deed} {output : Output}
      (hbroken : Broken host contest.settings.limit contest.turns .limitBeyondClock deeds)
      (hcode : output.code = 101) :
      Compared host directory contest candidate baseline output deeds

theorem does_compareLocated (common : Common) (request : CompareRequest) (files : List String)
    (candidate : LocatedEngine) {baseline : LocatedEngine} {s s' : σ}
    (hbaseline : request.baseline.locate host s = (.ok baseline, s')) :
    Does
      (compareLocated host.logged common request.resultsDirectory (batchOf request) files candidate baseline)
      (compareLocated host common request.resultsDirectory (batchOf request) files candidate baseline)
      (Compared host request.resultsDirectory (contestOn request files) candidate baseline) := by
  have hruns := (contestOn request files).does_runs hbaseline
  refine Does.bind hruns fun answer turns hturns => ?_
  cases answer with
  | error h =>
    obtain rfl := Broken.halt_eq hturns
    refine Does.pure ?_
    rw [List.append_nil]
    exact .broken hturns rfl
  | ok pairs =>
    exact (does_reportPairs common request.resultsDirectory candidate baseline pairs).mono
      fun output finish hfinish => .reported hturns hfinish

/-- A comparison has a result, leaves a state, and does what it does in between. -/
def Leaves (host : Host (StateM σ)) (common : Common) (request : CompareRequest) (s : σ) (output : Output)
    (s' : σ) (deeds : List Deed) : Prop :=
  compare host common request s = (output, s') ∧
    ∀ log, compare host.logged common request (s, log) = (output, s', log ++ deeds)

/-- **Comparisons**: if a check fails, the first one decides, its message is told, and nothing is done. The
exit code is two for the list of files and the repetitions, and one for an engine. Otherwise each file has
all its turns under the candidate and then under the baseline, however many of the runs fail, unless a
process is started under a limit beyond the clock. -/
theorem compare_leaves (host : Host (StateM σ)) (common : Common) (request : CompareRequest) (s : σ) :
    (∀ e code s', Refused host request s e code s' →
      Leaves host common request s ⟨code, "", Output.errorLine e.message⟩ s' []) ∧
    (∀ files candidate baseline s₀, Ready host request s files candidate baseline s₀ →
      ∃ output s' deeds, Leaves host common request s output s' deeds ∧
        Compared host request.resultsDirectory (contestOn request files) candidate baseline output deeds) ∧
    ((∃ e code s', Refused host request s e code s') ∨
      ∃ files candidate baseline s₀, Ready host request s files candidate baseline s₀) := by
  refine ⟨fun e code s' hrefused => ?_, fun files candidate baseline s₀ hready => ?_,
    refused_or_ready host request s⟩
  · have houtput : Output.fault "" e = ⟨code, "", Output.errorLine e.message⟩ := by
      rw [← hrefused.exitCode]
      rfl
    rw [← houtput]
    refine ⟨compare_of_refused hrefused common, fun log => ?_⟩
    rw [List.append_nil]
    exact compare_of_refused (hrefused.logged log) common
  · obtain ⟨s₂, hbaseline⟩ : ∃ s₂, request.baseline.locate host s₂ = (.ok baseline, s₀) := by
      cases hready with
      | mk _ _ _ _ hbaseline => exact ⟨_, hbaseline⟩
    obtain ⟨deeds, hlogged, hcompared⟩ := does_compareLocated common request files candidate hbaseline s₀
    obtain ⟨output, s', hplain⟩ : ∃ output s', compareLocated host common request.resultsDirectory
      (batchOf request) files candidate baseline s₀ = (output, s') := ⟨_, _, rfl⟩
    rw [hplain] at hlogged hcompared
    refine ⟨output, s', deeds, ⟨?_, fun log => ?_⟩, hcompared⟩
    · rw [compare_of_ready hready common, hplain]
    · rw [compare_of_ready (hready.logged log) common, hlogged log]

/-- One file, and one run of each engine without a limit. -/
def single : CompareRequest where
  candidate := ⟨"Candidate", "./candidate", []⟩
  baseline := ⟨"Baseline", "./baseline", []⟩
  workloads := ⟨["a.js"], none, none, []⟩
  settings := ⟨1, none⟩
  resultsDirectory := "results"

/-- Without repetitions nothing is done. With one, and no limit, all turns are carried out. -/
theorem compare_leaves_single :
    (Refused willingHost { single with settings := ⟨0, none⟩ } 0 (.config "repeat" "must be at least 1") 2 0 ∧
      Leaves willingHost default { single with settings := ⟨0, none⟩ } 0
        ⟨2, "", Output.errorLine (Fault.config "repeat" "must be at least 1").message⟩ 0 []) ∧
    Ready willingHost single 0 ["a.js"] ⟨"Candidate", "./candidate"⟩ ⟨"Baseline", "./baseline"⟩ 0 ∧
      ∃ pairs turns finish output s', (contestOn single ["a.js"]).Ran willingHost pairs turns ∧
        Reported "results" ⟨"Candidate", "./candidate"⟩ ⟨"Baseline", "./baseline"⟩ pairs output finish ∧
        Leaves willingHost default single 0 output s' (turns ++ finish) := by
  have hrefused : Refused willingHost { single with settings := ⟨0, none⟩ } 0
      (.config "repeat" "must be at least 1") 2 0 := .noRepeats rfl (List.cons_ne_nil "a.js" []) rfl
  have hready : Ready willingHost single 0 ["a.js"] ⟨"Candidate", "./candidate"⟩
      ⟨"Baseline", "./baseline"⟩ 0 := .mk rfl (by decide) (by decide) rfl rfl
  refine ⟨⟨hrefused, (compare_leaves willingHost default _ 0).1 _ _ _ hrefused⟩, hready, ?_⟩
  obtain ⟨output, s', deeds, hleaves, hcompared⟩ :=
    (compare_leaves willingHost default single 0).2.1 _ _ _ _ hready
  cases hcompared with
  | reported hran hreported => exact ⟨_, _, _, output, s', hran, hreported, hleaves⟩
  | broken hbroken _ => exact absurd rfl hbroken.limit_ne_none

/-- The longest limit that can be asked for. -/
def patient : CompareRequest := { single with settings := ⟨1, some (Value.mostWord * Span.second)⟩ }

/-- A comparison ends after its first process, although nothing is wrong with the engines. -/
theorem compare_breaks_off :
    Ready willingHost patient 0 ["a.js"] ⟨"Candidate", "./candidate"⟩ ⟨"Baseline", "./baseline"⟩ 0 ∧
      ∃ output answer, Leaves willingHost default patient 0 output 0
          [.execute ⟨"./candidate", ["a.js"], none, patient.settings.limit⟩ answer] ∧
        output.code = 101 :=
  ⟨.mk rfl (by decide) (by decide) rfl rfl, _, _, ⟨rfl, fun _ => rfl⟩, rfl⟩

end CommandLine.Program

end Stopwatch
