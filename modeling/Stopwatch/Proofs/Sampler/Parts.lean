import Stopwatch.Proofs.Memory.Figures
import Stopwatch.Sampler

/-!
# The parts of a measurement

- `Sampler.reserve_eq_error_iff`: when there is no room for the samples;
- `Sampler.memoryDelta_eq_ok`: the difference of two looks never ends the program;
- `Sampler.samples_succ`: one timed call in front of the others.
-/

namespace Stopwatch.Sampler

theorem reserve_eq_error_iff {n : Nat} {e : Halt} :
    reserve n = .error e ↔ sampleLimit ≤ n ∧ e = .tooManySamples := by
  unfold reserve
  split
  · rename_i h
    exact iff_of_false nofun fun hlimit => hlimit.1.not_gt h
  · rename_i h
    rw [Except.error.injEq, eq_comm]
    exact (and_iff_right (not_lt.mp h)).symm

/-- The difference of two snapshots always has a place among signed words. -/
theorem memoryDelta_eq_ok (first last : Option Memory.Snapshot) :
    ∃ delta, memoryDelta first last = .ok delta ∧
      (delta.isSome = true ↔ first.isSome = true ∧ last.isSome = true) := by
  cases first with
  | none => exact ⟨none, by cases last <;> rfl, by simp⟩
  | some before =>
    cases last with
    | none => exact ⟨none, rfl, by simp⟩
    | some after =>
      obtain ⟨d, hd, -⟩ := before.deltaTo_spans after
      exact ⟨some d, by rw [memoryDelta, hd]; rfl, by simp⟩

section Samples

variable {m : Type → Type} [Monad m] {ε : Type}

/-- The rest of the timed calls, after one with this outcome. -/
def samplesAfter (gauges : Gauges m) (clock : Clock) (call : m (Except ε Unit)) (n : Nat)
    (elapsed : Float) : Except ε Unit → m (Except ε (List Float))
  | .error e => pure (.error e)
  | .ok _ => do
    match ← samples gauges clock call n with
    | .error e => pure (.error e)
    | .ok rest => pure (.ok (elapsed :: rest))

/-- One timed call in front of the others: a reading, the call, a reading. -/
theorem samples_succ [LawfulMonad m] (gauges : Gauges m) (clock : Clock)
    (call : m (Except ε Unit)) (n : Nat) :
    samples gauges clock call (n + 1) = (do
      let before ← clock.now gauges
      let outcome ← call
      let after ← clock.now gauges
      samplesAfter gauges clock call n (after - before) outcome) := by
  simp only [samples, time, bind_assoc, pure_bind]
  refine bind_congr fun before => bind_congr fun outcome => bind_congr fun after => ?_
  cases outcome with
  | error e => rfl
  | ok _ => rfl

end Samples

end Stopwatch.Sampler
