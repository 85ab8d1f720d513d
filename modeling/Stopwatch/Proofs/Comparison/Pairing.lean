import Mathlib.Data.List.Nodup
import Stopwatch.Proofs.Comparison.Lookup
import Stopwatch.Proofs.Tally.Counting

/-!
# Pairs of process runs in a comparison

A batch of process runs times every workload file under two runtimes, but the comparison
that is made of it joins the two sides by test name, which is only the last component of a
file's path. Files of one name in different directories are therefore confused: each of
them is compared with the *last* of them that the baseline has timed.

- `RunPair.comparison`: the comparison of a batch;
- `RunPair.FileByFile`: every file is compared with its own baseline runs;
- `RunPair.comparison_by_name`: what the comparison of a batch is, and exactly when it
  goes file by file;
- `RunPair.not_fileByFile_namesakes`: a batch of two files for which it does not.
-/

namespace Stopwatch.RunPair

open Comparison (Record beside lastNamed?)

/-- The comparison of the candidate timings of a batch with its baseline timings. -/
def comparison (pairs : List RunPair) : Comparison :=
  .of [candidateGroup pairs] (some [baselineGroup pairs])

/-- The figures of a test. -/
def figures (t : TestResult) : Spread := .ofSummary t.stats

/-- The last baseline timing of a batch for files of some name. -/
def lastBaseline? (pairs : List RunPair) (name : String) : Option TestResult :=
  ((pairs.filter (·.testName == name)).filterMap baselineResult?).getLast?

/-- The record that a file should have: its own candidate timing beside its own baseline
timing. -/
def ownRecord? (p : RunPair) : Option Record :=
  p.candidateResult?.map fun t => beside category t p.baselineResult?

/-- Every file with a candidate timing has its own record, in order. -/
def FileByFile (pairs : List RunPair) : Prop :=
  (comparison pairs).records = pairs.filterMap ownRecord?

instance (pairs : List RunPair) : Decidable (FileByFile pairs) :=
  inferInstanceAs (Decidable (_ = _))

/-! ### The two sides of a batch -/

theorem reduce_name {name : String} {runs : List ProcessRun} {t : TestResult}
    (h : reduce name runs = some t) : t.name = name := by
  simp only [reduce] at h
  split at h
  · cases h
  · cases h
    rfl

theorem lastNamed?_baseline (name : String) (pairs : List RunPair) :
    lastNamed? name (pairs.filterMap baselineResult?) = lastBaseline? pairs name := by
  unfold lastNamed? lastBaseline?
  rw [List.filter_filterMap, List.filterMap_filter]
  refine congrArg List.getLast? (List.filterMap_congr fun p _ => ?_)
  cases h : p.baselineResult? with
  | none => simp
  | some t =>
    rw [Option.filter_some, reduce_name h]

/-- The records of a batch: every candidate timing beside the last baseline timing for its
name. -/
theorem comparison_records (pairs : List RunPair) :
    (comparison pairs).records =
      pairs.filterMap fun p => p.candidateResult?.map fun t =>
        beside category t (lastBaseline? pairs p.testName) := by
  unfold comparison
  rw [Comparison.records_of, List.flatMap_singleton, candidateGroup, List.map_filterMap]
  refine List.filterMap_congr fun p _ => ?_
  cases h : p.candidateResult? with
  | none => rfl
  | some t =>
    rw [Option.map_some, Option.map_some, reduce_name h, ResultGroup.allTests,
      List.flatMap_singleton, baselineGroup, lastNamed?_baseline]

/-- A pair with a baseline timing is among those that its name finds. -/
theorem lastBaseline?_isSome {pairs : List RunPair} {p : RunPair} (hp : p ∈ pairs)
    (h : p.baselineResult?.isSome) : (lastBaseline? pairs p.testName).isSome := by
  obtain ⟨t, ht⟩ := Option.isSome_iff_exists.mp h
  have hmem : t ∈ (pairs.filter (·.testName == p.testName)).filterMap baselineResult? :=
    List.mem_filterMap.mpr ⟨p, List.mem_filter.mpr ⟨hp, by simp⟩, ht⟩
  exact List.getLast?_isSome.mpr (List.ne_nil_of_mem hmem)

/-- What a name finds is the baseline timing of a pair of that name. -/
theorem mem_of_lastBaseline? {pairs : List RunPair} {name : String} {t : TestResult}
    (h : lastBaseline? pairs name = some t) :
    ∃ q ∈ pairs, q.testName = name ∧ q.baselineResult? = some t := by
  obtain ⟨q, hq, ht⟩ := List.mem_filterMap.mp (List.mem_of_getLast? h)
  obtain ⟨hmem, hname⟩ := List.mem_filter.mp hq
  exact ⟨q, hmem, by simpa using hname, ht⟩

/-- A name finds something exactly if the baseline side of some pair of that name has a
timing. -/
theorem lastBaseline?_isSome_iff (pairs : List RunPair) (name : String) :
    (lastBaseline? pairs name).isSome ↔
      ∃ q ∈ pairs, q.testName = name ∧ q.baselineResult?.isSome := by
  constructor
  · intro h
    obtain ⟨t, ht⟩ := Option.isSome_iff_exists.mp h
    obtain ⟨q, hq, hname, hown⟩ := mem_of_lastBaseline? ht
    exact ⟨q, hq, hname, by rw [hown]; rfl⟩
  · rintro ⟨q, hq, rfl, hown⟩
    exact lastBaseline?_isSome hq hown

/-- Without namesakes a name finds the pair itself. -/
theorem lastBaseline?_of_nodup {pairs : List RunPair} {p : RunPair}
    (h : (pairs.map testName).Nodup) (hp : p ∈ pairs) :
    lastBaseline? pairs p.testName = p.baselineResult? := by
  cases hlast : lastBaseline? pairs p.testName with
  -- if nothing is found, the pair has no timing either
  | none =>
    cases hown : p.baselineResult? with
    | none => rfl
    | some t =>
      have hsome := lastBaseline?_isSome hp (by rw [hown]; rfl)
      rw [hlast] at hsome
      cases hsome
  | some t =>
    -- what is found is of a pair of the same name, so of this one
    obtain ⟨q, hq, hname, ht⟩ := mem_of_lastBaseline? hlast
    rw [← List.inj_on_of_nodup_map h hq hp hname, ht]

/-! ### When the comparison goes file by file -/

/-- Two selections that keep the same elements of a list agree on the list exactly if they
agree on each of its elements. -/
theorem filterMap_eq_filterMap_iff {α β : Type} {f g : α → Option β}
    (hkept : ∀ a, (f a).isSome = (g a).isSome) (l : List α) :
    l.filterMap f = l.filterMap g ↔ ∀ a ∈ l, f a = g a := by
  constructor
  · intro h
    induction l with
    | nil => simp
    | cons a rest ih =>
      have ha := hkept a
      rw [List.filterMap_cons, List.filterMap_cons] at h
      rw [List.forall_mem_cons]
      cases hf : f a <;> cases hg : g a <;> simp only [hf, hg] at ha h
      · exact ⟨rfl, ih h⟩
      · cases ha
      · cases ha
      · obtain ⟨hhead, htail⟩ := List.cons.inj h
        exact ⟨congrArg some hhead, ih htail⟩
  · exact fun h => List.filterMap_congr h

theorem fileByFile_iff (pairs : List RunPair) :
    FileByFile pairs ↔ ∀ p ∈ pairs, p.candidateResult?.isSome →
      (lastBaseline? pairs p.testName).map figures = p.baselineResult?.map figures := by
  unfold FileByFile
  rw [comparison_records]
  rw [show pairs.filterMap ownRecord? = pairs.filterMap fun p => p.candidateResult?.map fun t =>
    beside category t p.baselineResult? from rfl]
  -- both sides keep the files with a candidate timing, so they agree file by file
  rw [filterMap_eq_filterMap_iff fun p => by rw [Option.isSome_map, Option.isSome_map]]
  refine forall₂_congr fun p _ => ?_
  cases p.candidateResult? with
  | none => simp
  | some t =>
    simp only [Option.map_some, Option.isSome_some, forall_const, Option.some.injEq]
    constructor
    · intro h
      have hbaseline := congrArg Record.baseline h
      rwa [Comparison.beside_baseline, Comparison.beside_baseline] at hbaseline
    · exact Comparison.beside_congr category t

/-! ### How many files are compared -/

theorem comparison_compared (pairs : List RunPair) :
    (comparison pairs).totals.compared = pairs.countP fun p =>
      p.candidateResult?.isSome && (lastBaseline? pairs p.testName).isSome := by
  have hcompared : (comparison pairs).totals.compared =
      (comparison pairs).records.countP (·.baseline.isSome) := Comparison.compared_eq _ _
  rw [hcompared, comparison_records, List.countP_filterMap]
  refine List.countP_congr fun p _ => ?_
  cases p.candidateResult? with
  | none => rfl
  | some t => simp [Comparison.beside_baseline]

theorem tally_successful (pairs : List RunPair) :
    (Tally.ofPairs pairs).successful = pairs.countP fun p =>
      p.candidateResult?.isSome && p.baselineResult?.isSome := by
  rw [Tally.successful_eq, List.length_filterMap_eq_countP]
  refine List.countP_congr fun p _ => ?_
  unfold Tally.means?
  cases p.candidateResult? <;> cases p.baselineResult? <;> rfl

/-- A weaker test holds equally often only where it implies the stronger one. -/
theorem countP_eq_countP_iff {α : Type} {p q : α → Bool} {l : List α}
    (himp : ∀ a ∈ l, p a → q a) :
    l.countP q = l.countP p ↔ ∀ a ∈ l, q a → p a := by
  constructor
  · intro h
    induction l with
    | nil => simp
    | cons a rest ih =>
      obtain ⟨ha, hrest⟩ := List.forall_mem_cons.mp himp
      have hle : rest.countP p ≤ rest.countP q := List.countP_mono_left hrest
      rw [List.countP_cons, List.countP_cons] at h
      rw [List.forall_mem_cons]
      by_cases hp : p a
      · rw [if_pos hp, if_pos (ha hp)] at h
        exact ⟨fun _ => hp, ih hrest (Nat.succ.inj h)⟩
      · by_cases hq : q a
        -- the weaker test is ahead here, and the rest cannot make up for it
        · rw [if_neg hp, if_pos hq] at h
          omega
        · rw [if_neg hp, if_neg hq] at h
          exact ⟨fun h' => absurd h' hq, ih hrest h⟩
  · exact fun h => List.countP_congr fun a ha => ⟨h a ha, himp a ha⟩

theorem compared_of_successful {pairs : List RunPair} {p : RunPair} (hp : p ∈ pairs)
    (h : p.candidateResult?.isSome && p.baselineResult?.isSome) :
    p.candidateResult?.isSome && (lastBaseline? pairs p.testName).isSome := by
  rw [Bool.and_eq_true] at h ⊢
  exact ⟨h.1, lastBaseline?_isSome hp h.2⟩

theorem successful_le_compared (pairs : List RunPair) :
    (Tally.ofPairs pairs).successful ≤ (comparison pairs).totals.compared := by
  rw [comparison_compared, tally_successful]
  exact List.countP_mono_left fun _ hp => compared_of_successful hp

/-- Too many files are compared exactly if the name of a file without a baseline timing of
its own finds one. -/
theorem compared_eq_successful_iff (pairs : List RunPair) :
    (comparison pairs).totals.compared = (Tally.ofPairs pairs).successful ↔
      ∀ p ∈ pairs, p.candidateResult?.isSome →
        ∀ q ∈ pairs, q.testName = p.testName →
          q.baselineResult?.isSome → p.baselineResult?.isSome := by
  rw [comparison_compared, tally_successful,
    countP_eq_countP_iff fun _ hp => compared_of_successful hp]
  refine forall₂_congr fun p _ => ?_
  rw [Bool.and_eq_true, Bool.and_eq_true, lastBaseline?_isSome_iff]
  constructor
  · intro h hc q hq hname hown
    exact (h ⟨hc, q, hq, hname, hown⟩).2
  · rintro h ⟨hc, q, hq, hname, hown⟩
    exact ⟨hc, h hc q hq hname hown⟩

/-- A batch that goes file by file compares as many files as it has timed on both sides. -/
theorem FileByFile.compared_eq {pairs : List RunPair} (h : FileByFile pairs) :
    (comparison pairs).totals.compared = (Tally.ofPairs pairs).successful := by
  rw [compared_eq_successful_iff]
  intro p hp hc q hq hname hown
  have hlast := (fileByFile_iff pairs).mp h p hp hc
  have hsome := (lastBaseline?_isSome_iff pairs p.testName).mpr ⟨q, hq, hname, hown⟩
  rwa [← Option.isSome_map, hlast, Option.isSome_map] at hsome

/-- **Process runs are joined by file name**: a file with a candidate timing is compared
with the last baseline timing for its *name*. The comparison goes file by file exactly if,
for every such file, this last timing shows the figures of the file's own baseline runs;
it never compares fewer files than were timed on both sides, and as many only if no file
without a baseline timing has a namesake with one. Without namesakes all is well. -/
theorem comparison_by_name (pairs : List RunPair) :
    (comparison pairs).records =
        (pairs.filterMap fun p => p.candidateResult?.map fun t =>
          beside category t (lastBaseline? pairs p.testName)) ∧
      (FileByFile pairs ↔ ∀ p ∈ pairs, p.candidateResult?.isSome →
        (lastBaseline? pairs p.testName).map figures = p.baselineResult?.map figures) ∧
      (FileByFile pairs →
        (comparison pairs).totals.compared = (Tally.ofPairs pairs).successful) ∧
      (Tally.ofPairs pairs).successful ≤ (comparison pairs).totals.compared ∧
      ((comparison pairs).totals.compared = (Tally.ofPairs pairs).successful ↔
        ∀ p ∈ pairs, p.candidateResult?.isSome →
          ∀ q ∈ pairs, q.testName = p.testName →
            q.baselineResult?.isSome → p.baselineResult?.isSome) ∧
      ((pairs.map testName).Nodup → FileByFile pairs) := by
  refine ⟨comparison_records pairs, fileByFile_iff pairs, FileByFile.compared_eq,
    successful_le_compared pairs, compared_eq_successful_iff pairs, ?_⟩
  intro hnodup
  rw [fileByFile_iff]
  intro p hp _
  rw [lastBaseline?_of_nodup hnodup hp]

/-! ### Two files of one name -/

/-- A run of one millisecond. -/
def quickRun (file : String) : ProcessRun := ⟨"runtime", file, 1.0, "", true, none, none⟩

/-- A file that the candidate runs and the baseline fails on. -/
def half (file : String) : RunPair :=
  ⟨file, [quickRun file], [.failure "runtime" file "exited with status 1"]⟩

/-- A file that both sides run. -/
def whole (file : String) : RunPair := ⟨file, [quickRun file], [quickRun file]⟩

/-- With different names the failure of the baseline shows in the comparison. -/
theorem comparison_by_name_distinct :
    ([half "a/v.js", whole "b/w.js"].map testName).Nodup ∧
      FileByFile [half "a/v.js", whole "b/w.js"] := by
  have hnodup : ([half "a/v.js", whole "b/w.js"].map testName).Nodup := by decide
  exact ⟨hnodup, (comparison_by_name [half "a/v.js", whole "b/w.js"]).2.2.2.2.2 hnodup⟩

/-- With one name in two directories it does not: the file that the baseline fails on is
compared with the other one. -/
theorem not_fileByFile_namesakes :
    ¬ FileByFile [half "a/w.js", whole "b/w.js"] ∧
      (comparison [half "a/w.js", whole "b/w.js"]).totals.compared = 2 ∧
      (Tally.ofPairs [half "a/w.js", whole "b/w.js"]).successful = 1 := by
  decide +kernel

end Stopwatch.RunPair
