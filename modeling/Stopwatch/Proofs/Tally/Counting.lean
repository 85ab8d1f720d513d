import Mathlib.Data.List.Basic
import Stopwatch.Tally

/-!
# The loop of a tally

A tally goes through the pairs of a batch and counts each of them. What it has counted in the end are the
mean times of the pairs with timings on both sides, and the pairs without.

- `means?`, `candidateWon`: the mean times of a pair, and who wins with them;
- `Count.add_of_means`, `Count.add_of_failure`: what one pair adds;
- `successful_eq`, `candidateWins_eq`, `baselineWins_eq`, `failures_eq`: what all of them come to.
-/

namespace Stopwatch.Tally

/-- The mean times of a file on both sides, candidate first, if both have a timing. -/
def means? (p : RunPair) : Option (Float × Float) := do
  let c ← p.candidateResult?
  let b ← p.baselineResult?
  return (c.stats.mean, b.stats.mean)

/-- The candidate wins a file if it is faster; the baseline wins the others. -/
def candidateWon (means : Float × Float) : Bool := decide (1.0 < means.2 / means.1)

namespace Count

theorem add_of_means (k : Count) {p : RunPair} {m : Float × Float} (h : means? p = some m) :
    k.add p = k.addTimed m.1 m.2 := by
  unfold means? at h
  unfold add
  cases hc : p.candidateResult? with
  | none => rw [hc] at h; cases h
  | some c =>
    cases hb : p.baselineResult? with
    | none => rw [hc, hb] at h; cases h
    | some b =>
      rw [hc, hb] at h
      cases h
      rfl

theorem add_of_failure (k : Count) {p : RunPair} (h : means? p = none) :
    k.add p = { k with failures := k.failures.push (failure p) } := by
  unfold means? at h
  unfold add
  cases hc : p.candidateResult? with
  | none => rfl
  | some c =>
    cases hb : p.baselineResult? with
    | none => rfl
    | some b => rw [hc, hb] at h; cases h

/-- The invariant of the loop: what was counted of some pairs. -/
structure Counts (k : Count) (pairs : List RunPair) : Prop where
  successful : k.successful = (pairs.filterMap means?).length
  candidateWins : k.candidateWins = (pairs.filterMap means?).countP candidateWon
  baselineWins : k.baselineWins = (pairs.filterMap means?).countP (!candidateWon ·)
  failures : k.failures.toList = (pairs.filter fun p => (means? p).isNone).map failure

theorem Counts.add {k : Count} {pairs : List RunPair} (h : k.Counts pairs) (p : RunPair) :
    (k.add p).Counts (pairs ++ [p]) := by
  cases hmeans : means? p with
  | none =>
    rw [k.add_of_failure hmeans]
    constructor <;> simp [hmeans, h.successful, h.candidateWins, h.baselineWins, h.failures]
  | some m =>
    rw [k.add_of_means hmeans, addTimed]
    by_cases hwon : 1.0 < m.2 / m.1
    · have hwon' : candidateWon m = true := decide_eq_true hwon
      rw [if_pos hwon]
      constructor <;> simp [hmeans, hwon', h.successful, h.candidateWins, h.baselineWins, h.failures]
    · have hwon' : candidateWon m = false := decide_eq_false hwon
      rw [if_neg hwon]
      constructor <;> simp [hmeans, hwon', h.successful, h.candidateWins, h.baselineWins, h.failures]

theorem Counts.foldl {k : Count} {before : List RunPair} (h : k.Counts before) (pairs : List RunPair) :
    (pairs.foldl Count.add k).Counts (before ++ pairs) := by
  induction pairs generalizing k before with
  | nil =>
    rw [List.append_nil]
    exact h
  | cons p pairs ih =>
    rw [List.foldl_cons, List.append_cons]
    exact ih (h.add p)

end Count

section
variable (pairs : List RunPair)

theorem counts_ofPairs : (pairs.foldl Count.add .zero).Counts pairs := by
  have hzero : Count.zero.Counts [] := ⟨rfl, rfl, rfl, rfl⟩
  exact hzero.foldl pairs

theorem successful_eq : (ofPairs pairs).successful = (pairs.filterMap means?).length :=
  (counts_ofPairs pairs).successful

theorem candidateWins_eq :
    (ofPairs pairs).candidateWins = (pairs.filterMap means?).countP candidateWon :=
  (counts_ofPairs pairs).candidateWins

theorem baselineWins_eq :
    (ofPairs pairs).baselineWins = (pairs.filterMap means?).countP (!candidateWon ·) :=
  (counts_ofPairs pairs).baselineWins

theorem failures_eq :
    (ofPairs pairs).failures = (pairs.filter fun p => (means? p).isNone).map failure :=
  (counts_ofPairs pairs).failures

end

end Stopwatch.Tally
