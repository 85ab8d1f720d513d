import Mathlib
import Stopwatch.Proofs.Comparison.Consistency
import Stopwatch.Proofs.Comparison.Pairing
import Stopwatch.Proofs.Decimal.Unsigned

/-!
# What a tally counts

A tally counts every pair of a batch once: as won by one side, or as failed. A pair is won if
it adds a test to both sides of the comparison. The tally finds the winner by dividing the
baseline mean by the candidate mean, the comparison by dividing the other way round; as no
elapsed time has a minus sign, the two agree, whatever is rounded, and so a batch without
namesakes has as many records for each side as the tally has wins.

- `Paired`: a pair has timings on both sides;
- `isUnsigned_mean`: means of elapsed times have no minus sign;
- `candidateWon_iff`: both ways to find the winner;
- `ofPairs_accounts`: what the counts of a tally are.
-/

namespace Stopwatch.Tally

open Decimal (IsTime IsUnsigned)
open RunPair (candidateGroup baselineGroup comparison ownRecord?)

/-- A pair that adds a test to both sides. -/
def Paired (p : RunPair) : Prop :=
  (candidateGroup [p]).tests ≠ [] ∧ (baselineGroup [p]).tests ≠ []

instance (p : RunPair) : Decidable (Paired p) := inferInstanceAs (Decidable (_ ∧ _))

/-- Every run that succeeded took some time: its duration has no minus sign. -/
def Elapsed (p : RunPair) : Prop :=
  ∀ r ∈ p.runs, r.succeeded = true → IsTime r.duration

instance (p : RunPair) : Decidable (Elapsed p) := inferInstanceAs (Decidable (∀ _ ∈ _, _))

/-! ### Pairs with timings on both sides -/

theorem filterMap_singleton_ne_nil_iff {α β : Type} {f : α → Option β} {a : α} :
    [a].filterMap f ≠ [] ↔ (f a).isSome = true := by
  cases h : f a <;> simp [h]

theorem paired_iff {p : RunPair} :
    Paired p ↔ p.candidateResult?.isSome = true ∧ p.baselineResult?.isSome = true :=
  and_congr filterMap_singleton_ne_nil_iff filterMap_singleton_ne_nil_iff

theorem isSome_means?_iff {p : RunPair} : (means? p).isSome = true ↔ Paired p := by
  rw [paired_iff]
  unfold means?
  cases p.candidateResult? with
  | none => exact ⟨nofun, nofun⟩
  | some c =>
    cases p.baselineResult? with
    | none => exact ⟨nofun, nofun⟩
    | some b => exact iff_of_true rfl ⟨rfl, rfl⟩

/-- What each pair adds to a side stands in the order of the pairs. -/
theorem filterMap_eq_flatMap_singleton {α β : Type} (f : α → Option β) (l : List α) :
    l.filterMap f = l.flatMap fun a => [a].filterMap f := by
  induction l with
  | nil => rfl
  | cons a rest ih =>
    rw [List.flatMap_cons, ← ih, ← List.filterMap_append, List.singleton_append]

/-! ### Means -/

theorem isUnsigned_foldl_add {xs : List Float} {a : Float} (ha : IsUnsigned a)
    (h : ∀ x ∈ xs, IsUnsigned x) : IsUnsigned (xs.foldl (· + ·) a) := by
  induction xs generalizing a with
  | nil => exact ha
  | cons x rest ih =>
    obtain ⟨hx, hrest⟩ := List.forall_mem_cons.mp h
    exact ih (ha.add hx) hrest

/-- The sum starts with minus zero, and loses the sign with the first sample. -/
theorem isUnsigned_sum {xs : List Float} (hne : xs ≠ []) (h : ∀ x ∈ xs, IsUnsigned x) :
    IsUnsigned (Statistics.sum xs) := by
  cases xs with
  | nil => exact absurd rfl hne
  | cons x rest =>
    obtain ⟨hx, hrest⟩ := List.forall_mem_cons.mp h
    show IsUnsigned (rest.foldl (· + ·) (-0.0 + x))
    exact isUnsigned_foldl_add hx.zero_add hrest

theorem isUnsigned_mean {xs : List Float} (h : ∀ x ∈ xs, IsUnsigned x) :
    IsUnsigned (Summary.ofSamples xs).mean := by
  unfold Summary.ofSamples
  split
  · exact .zero
  · rename_i hempty
    have hne : xs ≠ [] := by simpa using hempty
    exact (isUnsigned_sum hne h).div (Decimal.isUnsigned_ofNat _)

/-- The mean of some runs is that of their durations. -/
theorem isUnsigned_reduce {name : String} {runs : List ProcessRun} {t : TestResult}
    (h : RunPair.reduce name runs = some t)
    (hruns : ∀ r ∈ runs, r.succeeded = true → IsTime r.duration) :
    IsUnsigned t.stats.mean := by
  have hsamples : ∀ x ∈ runs.filterMap ProcessRun.sample?, IsUnsigned x := by
    intro x hx
    obtain ⟨r, hr, hsample⟩ := List.mem_filterMap.mp hx
    unfold ProcessRun.sample? at hsample
    split at hsample
    · rename_i hcounts
      obtain ⟨hsucceeded, -⟩ := Bool.and_eq_true_iff.mp hcounts
      cases hsample
      exact (hruns r hr hsucceeded).isUnsigned
    · cases hsample
  simp only [RunPair.reduce] at h
  split at h
  · cases h
  · cases h
    exact isUnsigned_mean hsamples

/-! ### Winners -/

/-- The side that wins a pair. -/
def winner (means : Float × Float) : Side :=
  if candidateWon means then .candidate else .baseline

/-- The tally and the comparison divide in different directions, and agree on the winner. -/
theorem winner_eq_faster {c b : Float} (hc : IsUnsigned c) (hb : IsUnsigned b) :
    winner (c, b) = Side.faster (c / b) := by
  have hwon : candidateWon (c, b) = true ↔ c / b < 1.0 :=
    decide_eq_true_iff.trans (Decimal.one_lt_div_iff_div_lt_one hc hb)
  unfold winner Side.faster
  by_cases h : c / b < 1.0
  · rw [if_pos h, if_pos (hwon.mpr h)]
  · rw [if_neg h, if_neg (mt hwon.mp h)]

/-- The record that a pair should have names the winner of the pair, if there is one. -/
theorem faster_ownRecord? {p : RunPair} (h : Elapsed p) :
    (ownRecord? p).bind (·.faster) = (means? p).map winner := by
  unfold ownRecord? means?
  cases hcandidate : p.candidateResult? with
  | none => rfl
  | some c =>
    cases hbaseline : p.baselineResult? with
    | none => rfl
    | some b =>
      have hc := isUnsigned_reduce hcandidate fun r hr => h r (List.mem_append_left _ hr)
      have hb := isUnsigned_reduce hbaseline fun r hr => h r (List.mem_append_right _ hr)
      exact congrArg some (winner_eq_faster hc hb).symm

theorem fileByFile_of_nodup {pairs : List RunPair}
    (h : (pairs.map RunPair.testName).Nodup) : RunPair.FileByFile pairs := by
  rw [RunPair.fileByFile_iff]
  intro p hp _
  rw [RunPair.lastBaseline?_of_nodup h hp]

/-- Without namesakes, the records for a side are those of the pairs that it has won. -/
theorem countP_faster {pairs : List RunPair} (hnodup : (pairs.map RunPair.testName).Nodup)
    (helapsed : ∀ p ∈ pairs, Elapsed p) (side : Side) :
    (comparison pairs).records.countP (·.faster == some side) =
      (pairs.filterMap means?).countP (winner · == side) := by
  rw [fileByFile_of_nodup hnodup, List.countP_filterMap, List.countP_filterMap]
  refine List.countP_congr fun p hp => ?_
  have hwinner := faster_ownRecord? (helapsed p hp)
  cases hrecord : ownRecord? p with
  | none =>
    cases hmeans : means? p with
    | none => exact Iff.rfl
    | some m =>
      rw [hrecord, hmeans] at hwinner
      cases hwinner
  | some r =>
    rw [hrecord] at hwinner
    have hfaster : r.faster = (means? p).map winner := hwinner
    show (r.faster == some side) = true ↔ _
    rw [hfaster]
    cases means? p with
    | none => exact ⟨nofun, nofun⟩
    | some m => exact Iff.rfl

/-! ### Counts -/

theorem candidateWins_ofPairs (pairs : List RunPair) :
    (ofPairs pairs).candidateWins =
      (pairs.filterMap means?).countP (winner · == .candidate) := by
  rw [candidateWins_eq]
  refine List.countP_congr fun m _ => ?_
  unfold winner
  cases candidateWon m <;> decide

theorem baselineWins_ofPairs (pairs : List RunPair) :
    (ofPairs pairs).baselineWins =
      (pairs.filterMap means?).countP (winner · == .baseline) := by
  rw [baselineWins_eq]
  refine List.countP_congr fun m _ => ?_
  unfold winner
  cases candidateWon m <;> decide

theorem wins_ofPairs (pairs : List RunPair) :
    (ofPairs pairs).candidateWins + (ofPairs pairs).baselineWins =
      (ofPairs pairs).successful := by
  have hlost : (pairs.filterMap means?).countP (!candidateWon ·) =
      (pairs.filterMap means?).countP fun m => decide ¬candidateWon m = true :=
    List.countP_congr fun m _ => by simp
  rw [candidateWins_eq, baselineWins_eq, successful_eq, hlost]
  exact (List.length_eq_countP_add_countP candidateWon).symm

theorem successful_ofPairs (pairs : List RunPair) :
    (ofPairs pairs).successful = pairs.countP fun p => decide (Paired p) := by
  rw [successful_eq, List.length_filterMap_eq_countP]
  refine List.countP_congr fun p _ => ?_
  rw [decide_eq_true_iff, isSome_means?_iff]

/-- There is one line for each pair that failed, which starts with its file. -/
theorem forall₂_failures (pairs : List RunPair) :
    List.Forall₂ (fun p line => ∃ reason, line = p.file ++ ": " ++ reason)
      (pairs.filter fun p => decide ¬Paired p) (ofPairs pairs).failures := by
  have hfilter : (pairs.filter fun p => (means? p).isNone) =
      pairs.filter fun p => decide ¬Paired p := by
    refine List.filter_congr fun p _ => ?_
    rw [Bool.eq_iff_iff, decide_eq_true_iff, ← isSome_means?_iff, Bool.not_eq_true,
      Option.isSome_eq_false_iff]
  rw [failures_eq, hfilter, List.forall₂_map_right_iff, List.forall₂_same]
  exact fun p _ => ⟨failureReason p, rfl⟩

theorem length_failures (pairs : List RunPair) :
    (ofPairs pairs).failures.length = (ofPairs pairs).failed := by
  have hfailed : (ofPairs pairs).failed = pairs.length - (ofPairs pairs).successful := rfl
  rw [← (forall₂_failures pairs).length_eq, ← List.countP_eq_length_filter, hfailed,
    successful_ofPairs, List.length_eq_countP_add_countP fun p => decide (Paired p)]
  simp only [decide_eq_true_eq, Nat.add_sub_cancel_left]

/-- **A tally counts every pair once**: the pairs that add a test to both sides of the
comparison as won by one of the sides, and the others as failed, with one line for each of
them in order. What the sides have are the tests that the pairs add. Without namesakes, if
every run that succeeded took some time, each side has won as many pairs as there are records
of the comparison in which it is the faster one. -/
theorem ofPairs_accounts (pairs : List RunPair) :
    let t := ofPairs pairs
    t.total = pairs.length ∧
      t.successful + t.failed = t.total ∧
      t.candidateWins + t.baselineWins = t.successful ∧
      t.successful = pairs.countP (fun p => decide (Paired p)) ∧
      t.failures.length = t.failed ∧
      List.Forall₂ (fun p line => ∃ reason, line = p.file ++ ": " ++ reason)
        (pairs.filter fun p => decide ¬Paired p) t.failures ∧
      (candidateGroup pairs).tests = pairs.flatMap (fun p => (candidateGroup [p]).tests) ∧
      (baselineGroup pairs).tests = pairs.flatMap (fun p => (baselineGroup [p]).tests) ∧
      ((pairs.map RunPair.testName).Nodup → (∀ p ∈ pairs, Elapsed p) →
        t.candidateWins =
            (comparison pairs).records.countP (·.faster == some .candidate) ∧
          t.baselineWins =
            (comparison pairs).records.countP (·.faster == some .baseline)) := by
  refine ⟨rfl, ?_, wins_ofPairs pairs, successful_ofPairs pairs, length_failures pairs,
    forall₂_failures pairs, filterMap_eq_flatMap_singleton _ pairs,
    filterMap_eq_flatMap_singleton _ pairs, ?_⟩
  · have hle := List.length_filterMap_le means? pairs
    rw [← successful_eq] at hle
    exact Nat.add_sub_cancel' hle
  · intro hnodup helapsed
    rw [countP_faster hnodup helapsed, countP_faster hnodup helapsed]
    exact ⟨candidateWins_ofPairs pairs, baselineWins_ofPairs pairs⟩

/-- The first pair has failed on one side, and the candidate wins the other one. -/
theorem ofPairs_accounts_batch :
    let pairs : List RunPair := [RunPair.half "v.js",
      ⟨"w.js", [RunPair.quickRun "w.js"], [{ RunPair.quickRun "w.js" with duration := 2.0 }]⟩]
    (pairs.map RunPair.testName).Nodup ∧ (∀ p ∈ pairs, Elapsed p) ∧
      (ofPairs pairs).candidateWins = 1 ∧
      (comparison pairs).records.countP (·.faster == some .candidate) = 1 := by
  intro pairs
  have hnodup : (pairs.map RunPair.testName).Nodup := by decide
  have helapsed : ∀ p ∈ pairs, Elapsed p := by decide +kernel
  have hwins : (ofPairs pairs).candidateWins = 1 := by decide +kernel
  obtain ⟨hcandidate, _⟩ :=
    (ofPairs_accounts pairs).2.2.2.2.2.2.2.2 hnodup helapsed
  exact ⟨hnodup, helapsed, hwins, hcandidate.symm.trans hwins⟩

end Stopwatch.Tally
