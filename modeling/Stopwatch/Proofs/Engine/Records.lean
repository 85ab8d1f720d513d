import Stopwatch.Proofs.Clock.Milliseconds
import Stopwatch.Proofs.Engine.Turns
import Stopwatch.Proofs.Session.Contest

/-!
# What records say

A record says in three places whether its run succeeded: by the flag, by the error, and by the
duration. Every way in which a run can end keeps them together, so a record with a duration that could
be a timing is that of a success. A result is made of timings only, whatever records it is made from.

- `ProcessRun.IsSound`: the flag, the error and the duration agree;
- `Attempt.isSound`, `Carried.isSound`: they do in every record of a turn;
- `RunPair.MadeOf`, `RunPair.madeOf_reduce`: the results of any runs, sound or not;
- `Batch.compareAll_records`: whole batches.
-/

namespace Stopwatch

open Decimal

/-! ### Records -/

/-- A run without an error succeeded and took some time; any other one failed and has the duration of
failed runs. -/
structure ProcessRun.IsSound (r : ProcessRun) : Prop where
  succeeded_iff : r.succeeded = true ↔ r.error = none
  failed : r.succeeded = false → r.duration = failedDuration
  timed : r.succeeded = true → 0.0 ≤ r.duration

theorem ProcessRun.isSound_failure (label file error : String) :
    (failure label file error).IsSound :=
  ⟨iff_of_false Bool.false_ne_true (Option.some_ne_none error), fun _ => rfl, nofun⟩

/-- What does not belong to the outcome can be anything. -/
theorem ProcessRun.IsSound.with {r : ProcessRun} (h : r.IsSound) (stdout : String)
    (fingerprint : Option String) : { r with stdout, fingerprint }.IsSound :=
  ⟨h.succeeded_iff, h.failed, h.timed⟩

theorem Finished.isSound_toRun (label file : String) (f : Finished) :
    (f.toRun label file).IsSound := by
  unfold toRun
  split
  · exact ⟨iff_of_true rfl rfl, nofun, fun _ => nonneg_milliseconds f.elapsed⟩
  · exact (ProcessRun.isSound_failure label file _).with _ _

theorem LocatedEngine.isSound_recordOf (engine : LocatedEngine) (file : String)
    (answer : Except ProcessError Finished) : (engine.recordOf file answer).IsSound := by
  cases answer with
  | error e => exact ProcessRun.isSound_failure _ _ _
  | ok finished => exact finished.isSound_toRun _ _

/-! ### Turns -/

section
variable {σ : Type} {host : Host (StateM σ)} {limit : Option Nat}

theorem Attempt.isSound {engine : Engine} {file : String} {run : ProcessRun} {deeds : List Deed}
    (h : Attempt host limit engine file run deeds) : run.IsSound := by
  cases h with
  | @started located _ _ _ _ _ _ fingerprint answer =>
    exact (located.isSound_recordOf file answer).with _ fingerprint
  | missing => exact ProcessRun.isSound_failure _ _ _

/-- Each turn leaves a sound record, whatever came of those before it. -/
theorem Carried.isSound {turns : List (Engine × String)} {runs : List ProcessRun}
    {deeds : List Deed} (h : Carried host limit turns runs deeds) : ∀ r ∈ runs, r.IsSound := by
  induction h with
  | nil => simp
  | cons hattempt _ ih => exact List.forall_mem_cons.mpr ⟨hattempt.isSound, ih⟩

/-- A batch that breaks off has a limit that ends beyond the clock from some moment that it shows. -/
theorem Broken.exists_beyond {turns : List (Engine × String)} {halt : Halt} {deeds : List Deed}
    (h : Broken host limit turns halt deeds) :
    ∃ span u, limit = some span ∧ Limit.isBeyondClock (host.monotonic u).1 span = true := by
  induction h with
  | now _ hoverrun =>
    cases hoverrun with
    | mk _ _ hlimit hbeyond _ => exact ⟨_, _, hlimit, hbeyond⟩
  | later _ _ ih => exact ih

end

/-! ### Results -/

/-- The run counts as a timing. -/
def ProcessRun.isTiming (r : ProcessRun) : Bool := r.succeeded && decide (0.0 ≤ r.duration)

/-- Among sound records, the timings are the successes. -/
theorem ProcessRun.IsSound.isTiming_eq {r : ProcessRun} (h : r.IsSound) :
    r.isTiming = r.succeeded := by
  cases hsucceeded : r.succeeded with
  | true => rw [isTiming, hsucceeded, Bool.true_and, decide_eq_true (h.timed hsucceeded)]
  | false => rw [isTiming, hsucceeded, Bool.false_and]

/-- What is not negative is a number. -/
theorem isNaN_of_nonneg {x : Float} (hx : 0.0 ≤ x) : x.isNaN = false := by
  rw [nonneg_iff] at hx
  show x.toModel.unpack.isNaN = false
  generalize x.toModel.unpack = u at hx
  cases hx <;> rfl

namespace RunPair

theorem filterMap_sample? (runs : List ProcessRun) :
    runs.filterMap ProcessRun.sample? = (runs.filter ProcessRun.isTiming).map ProcessRun.duration := by
  induction runs with
  | nil => rfl
  | cons r runs ih =>
    by_cases htiming : r.isTiming = true
    · have hsample : r.sample? = some r.duration := if_pos htiming
      rw [List.filterMap_cons_some hsample, List.filter_cons_of_pos htiming, List.map_cons, ih]
    · have hsample : r.sample? = none := if_neg htiming
      rw [List.filterMap_cons_none hsample, List.filter_cons_of_neg htiming, ih]

/-- A result is made of the timings among some runs: its samples are their durations, in order, and
none of them is negative or not a number. -/
structure MadeOf (runs : List ProcessRun) (result : Option TestResult) : Prop where
  exists_iff : result.isSome = true ↔ ∃ r ∈ runs, r.isTiming = true
  samples : ∀ t, result = some t →
    t.samples = (runs.filter ProcessRun.isTiming).map ProcessRun.duration
  nonneg : ∀ t, result = some t → ∀ x ∈ t.samples, 0.0 ≤ x ∧ x.isNaN = false

/-- **No failed run becomes a timing**, whatever its record says besides. -/
theorem madeOf_reduce (name : String) (runs : List ProcessRun) : MadeOf runs (reduce name runs) := by
  have hempty : ((runs.filter ProcessRun.isTiming).map ProcessRun.duration).isEmpty = true ↔
      ¬∃ r ∈ runs, r.isTiming = true := by
    simp
  unfold reduce
  dsimp only
  rw [filterMap_sample?]
  split
  · rename_i hnone
    exact ⟨iff_of_false Bool.false_ne_true (hempty.mp hnone), nofun, nofun⟩
  · rename_i hsome
    refine ⟨iff_of_true rfl (not_not.mp fun hnone => hsome (hempty.mpr hnone)), ?_, ?_⟩
    · rintro t ⟨⟩
      rfl
    · rintro t ⟨⟩ x hx
      obtain ⟨r, hr, rfl⟩ := List.mem_map.mp hx
      have htiming := (List.mem_filter.mp hr).2
      rw [ProcessRun.isTiming, Bool.and_eq_true, decide_eq_true_eq] at htiming
      exact ⟨htiming.2, isNaN_of_nonneg htiming.2⟩

end RunPair

/-! ### Batches -/

namespace Batch

variable {σ : Type}

/-- The batch as a contest on some files. -/
def contest (batch : Batch) (files : List String) : Contest :=
  ⟨some batch.candidate, batch.baseline, batch.settings, files⟩

/-- What a batch that is carried out to its end returns: a pair for each file, in order, with so many
runs on each side, whose records are sound. -/
structure Complete (batch : Batch) (files : List String) (pairs : List RunPair) : Prop where
  named : pairs.map RunPair.file = files
  candidate : ∀ p ∈ pairs, p.candidate.length = batch.settings.repeats
  baseline : ∀ p ∈ pairs, p.baseline.length = batch.settings.repeats
  sound : ∀ p ∈ pairs, ∀ r ∈ p.runs, r.IsSound

theorem Complete.of_ran {host : Host (StateM σ)} {batch : Batch} {files : List String}
    {pairs : List RunPair} {deeds : List Deed}
    (h : (batch.contest files).Ran host pairs deeds) : batch.Complete files pairs where
  named := h.named
  candidate p hp := (h.sides p hp).1
  baseline p hp := (h.sides p hp).2
  sound p hp r hr := h.carried.isSound r (List.mem_flatMap.mpr ⟨p, hp, hr⟩)

theorem does_compareAll (host : Host (StateM σ)) (batch : Batch) (files : List String) :
    DoesT (batch.compareAll host.logged files) (batch.compareAll host files)
      ((batch.contest files).Ran host)
      (Broken host batch.settings.limit (batch.contest files).turns) :=
  (batch.contest files).does_each
    fun file => @Contest.does_compareFile _ _ (batch.contest files) _ rfl file

/-- **Every turn of a batch has its record.** A batch is carried out to its end, whatever engines and
files it is given and whatever comes of its processes, unless a process is started under a limit that
ends beyond the clock; and the results of any pair, of a batch or not, are made of its timings. -/
theorem compareAll_records (host : Host (StateM σ)) (batch : Batch) (files : List String) (s : σ) :
    ((∃ pairs s', (batch.compareAll host files).run s = (.ok pairs, s') ∧
        batch.Complete files pairs) ∨
      ∃ s' deeds, (batch.compareAll host files).run s = (.error .limitBeyondClock, s') ∧
        Broken host batch.settings.limit (batch.contest files).turns .limitBeyondClock deeds) ∧
    ((∀ span u, batch.settings.limit = some span →
        Limit.isBeyondClock (host.monotonic u).1 span = false) →
      ∃ pairs s', (batch.compareAll host files).run s = (.ok pairs, s') ∧
        batch.Complete files pairs) ∧
    ∀ p : RunPair, RunPair.MadeOf p.candidate p.candidateResult? ∧
      RunPair.MadeOf p.baseline p.baselineResult? := by
  obtain ⟨deeds, -, hdone⟩ := does_compareAll host batch files s
  have houtcome : (∃ pairs s', (batch.compareAll host files).run s = (.ok pairs, s') ∧
        batch.Complete files pairs) ∨
      ∃ s' deeds, (batch.compareAll host files).run s = (.error .limitBeyondClock, s') ∧
        Broken host batch.settings.limit (batch.contest files).turns .limitBeyondClock deeds := by
    obtain ⟨answer, s', hanswer⟩ : ∃ answer s', (batch.compareAll host files).run s = (answer, s') :=
      ⟨_, _, rfl⟩
    rw [hanswer] at hdone ⊢
    cases answer with
    | ok pairs => exact .inl ⟨pairs, s', rfl, .of_ran hdone⟩
    | error halt =>
      have hbroken : Broken host batch.settings.limit (batch.contest files).turns halt deeds := hdone
      obtain rfl := hbroken.halt_eq
      exact .inr ⟨s', deeds, rfl, hbroken⟩
  refine ⟨houtcome, fun hkept => houtcome.resolve_right ?_, fun p =>
    ⟨RunPair.madeOf_reduce _ _, RunPair.madeOf_reduce _ _⟩⟩
  rintro ⟨-, deeds, -, hbroken⟩
  obtain ⟨span, u, hlimit, hbeyond⟩ := hbroken.exists_beyond
  rw [hkept span u hlimit] at hbeyond
  cases hbeyond

/-- Two files and two repetitions, without a limit. -/
theorem compareAll_records_unlimited :
    ∃ pairs s', ((⟨⟨"Candidate", "./candidate", []⟩, ⟨"Baseline", "./baseline", []⟩, ⟨2, none⟩⟩ :
        Batch).compareAll willingHost ["a.js", "b.js"]).run 0 = (.ok pairs, s') ∧
      (⟨⟨"Candidate", "./candidate", []⟩, ⟨"Baseline", "./baseline", []⟩, ⟨2, none⟩⟩ :
        Batch).Complete ["a.js", "b.js"] pairs :=
  (compareAll_records willingHost _ _ 0).2.1 nofun

/-- With the longest limit that can be asked for, there are no pairs, although nothing is wrong with the
engines. -/
theorem compareAll_without_records :
    ¬∃ pairs s', ((⟨⟨"Candidate", "./candidate", []⟩, ⟨"Baseline", "./baseline", []⟩,
      ⟨1, some (18446744073709551615 * Span.second)⟩⟩ : Batch).compareAll willingHost
        ["a.js"]).run 0 = (.ok pairs, s') := by
  rintro ⟨pairs, s', hpairs⟩
  cases hpairs

end Batch

end Stopwatch
