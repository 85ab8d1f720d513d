import Stopwatch.Proofs.Clock.Readings
import Stopwatch.Proofs.Sampler.Parts

/-!
# The readings around timed calls

A sample is the difference of what the clock shows right after a call and right before it. It is
negative exactly if the clock shows less after the call. That cannot happen on a source that never
goes back, nor on a wall clock that is not set back during the call. A wall clock that is set back
then may show less: a clock holds what it shows at zero, and not what passes between two readings.

- `TimedCalls`: calls one after the other, each with the readings around it;
- `TimedCalls.of_samples`, `TimedCalls.of_tryRun`: where samples come from;
- `NeverBack`: a source that never goes back;
- `Sampler.tryRun_nonneg_iff`, `Sampler.tryRun_nonneg`: which samples are not negative;
- `Sampler.setBack_negative`: a sample that is.
-/

namespace Stopwatch

open Decimal

variable {σ ε : Type} {gauges : Gauges (StateM σ)} {clock : Clock} {call : StateM σ (Except ε Unit)}

/-- Calls that succeed one after the other, with the readings of the clock's source right before and
right after each. -/
inductive TimedCalls (gauges : Gauges (StateM σ)) (clock : Clock)
    (call : StateM σ (Except ε Unit)) : σ → List (Nat × Nat) → σ → Prop
  | nil (s : σ) : TimedCalls gauges clock call s [] s
  | cons {s s₁ s₂ s₃ s' : σ} {before after : Nat} {others : List (Nat × Nat)}
      (hbefore : clock.read gauges s = (before, s₁)) (hcall : call s₁ = (.ok (), s₂))
      (hafter : clock.read gauges s₂ = (after, s₃))
      (hothers : TimedCalls gauges clock call s₃ others s') :
      TimedCalls gauges clock call s ((before, after) :: others) s'

/-- The time of a call, from the readings around it. -/
def Clock.elapsed (clock : Clock) (readings : Nat × Nat) : Float :=
  clock.shows readings.2 - clock.shows readings.1

namespace TimedCalls

/-- **Each sample comes from the readings around its call.** -/
theorem of_samples {n : Nat} {s s' : σ} {times : List Float}
    (h : Sampler.samples gauges clock call n s = (.ok times, s')) :
    ∃ readings, TimedCalls gauges clock call s readings s' ∧ readings.length = n ∧
      times = readings.map clock.elapsed := by
  induction n generalizing s times with
  | zero =>
    cases h
    exact ⟨[], .nil _, rfl, rfl⟩
  | succ n ih =>
    obtain ⟨before, s₁, hbefore⟩ : ∃ before s₁, clock.read gauges s = (before, s₁) := ⟨_, _, rfl⟩
    obtain ⟨outcome, s₂, hcall⟩ : ∃ outcome s₂, call s₁ = (outcome, s₂) := ⟨_, _, rfl⟩
    obtain ⟨after, s₃, hafter⟩ : ∃ after s₃, clock.read gauges s₂ = (after, s₃) := ⟨_, _, rfl⟩
    rw [Sampler.samples_succ, run_bind_of_eq (Clock.now_apply hbefore), run_bind_of_eq hcall,
      run_bind_of_eq (Clock.now_apply hafter)] at h
    cases outcome with
    | error e => cases h
    | ok _ =>
      obtain ⟨answer, s₄, hothers⟩ :
        ∃ answer s₄, Sampler.samples gauges clock call n s₃ = (answer, s₄) := ⟨_, _, rfl⟩
      change (Sampler.samples gauges clock call n >>= _) s₃ = _ at h
      rw [run_bind_of_eq hothers] at h
      cases answer with
      | error e => cases h
      | ok rest =>
        cases h
        obtain ⟨readings, htimed, hlength, rfl⟩ := ih hothers
        exact ⟨_, .cons hbefore hcall hafter htimed, by rw [List.length_cons, hlength], rfl⟩

/-- **So does each sample of a measurement**, whatever was called or read before and after. -/
theorem of_tryRun {sampler : Sampler} {sampling : Sampling} {s s' : σ} {t : TestResult}
    (h : (sampler.tryRun gauges sampling call).run s = (.ok (.ok t), s')) :
    ∃ s₁ readings s₂, TimedCalls gauges sampler.clock call s₁ readings s₂ ∧
      readings.length = sampling.iterations ∧ t.samples = readings.map sampler.clock.elapsed := by
  -- the warmup, a look, room for the samples
  obtain ⟨warm, s₁, -, h⟩ := of_run_bind_eq_ok h
  cases warm with
  | error e => cases h
  | ok _ =>
    obtain ⟨first, s₂, -, h⟩ := of_run_bind_eq_ok h
    obtain ⟨_, s₃, -, h⟩ := of_run_bind_eq_ok h
    obtain ⟨answer, s₄, htimes, h⟩ := of_run_bind_eq_ok h
    cases answer with
    | error e => cases h
    | ok times =>
      -- and the samples, which a look and a difference are added to
      obtain ⟨last, s₅, -, h⟩ := of_run_bind_eq_ok h
      obtain ⟨delta, s₆, -, h⟩ := of_run_bind_eq_ok h
      cases h
      obtain ⟨readings, htimed, hlength, htimes'⟩ := of_samples (of_run_lift_eq_ok htimes)
      exact ⟨s₃, readings, s₄, htimed, hlength, htimes'⟩

/-- What holds of the readings around every call holds of all. -/
theorem forall_readings {P : Nat → Nat → Prop} {s s' : σ} {readings : List (Nat × Nat)}
    (h : TimedCalls gauges clock call s readings s')
    (hstep : ∀ {s s₁ s₂ s₃ before after}, clock.read gauges s = (before, s₁) →
      call s₁ = (.ok (), s₂) → clock.read gauges s₂ = (after, s₃) → P before after) :
    ∀ r ∈ readings, P r.1 r.2 := by
  induction h with
  | nil s => exact nofun
  | cons hbefore hcall hafter _ ih =>
    exact List.forall_mem_cons.mpr ⟨hstep hbefore hcall hafter, ih⟩

theorem bounded {s s' : σ} {readings : List (Nat × Nat)}
    (hbound : ∀ s, (clock.read gauges s).1 < longest)
    (h : TimedCalls gauges clock call s readings s') :
    ∀ r ∈ readings, r.1 < longest ∧ r.2 < longest := by
  refine h.forall_readings (P := fun before after => before < longest ∧ after < longest) ?_
  intro s s₁ s₂ s₃ before after hbefore _ hafter
  have hfirst := hbound s
  have hlast := hbound s₂
  rw [hbefore] at hfirst
  rw [hafter] at hlast
  exact ⟨hfirst, hlast⟩

end TimedCalls

/-! ### Sources that never go back -/

/-- A source never goes back, and does not during a call: its readings lie between the times before
and after them. -/
structure NeverBack (read : StateM σ Nat) (call : StateM σ (Except ε Unit)) (time : σ → Nat) :
    Prop where
  le_reading (s : σ) : time s ≤ (read s).1
  reading_le (s : σ) : (read s).1 ≤ time (read s).2
  le_call (s : σ) : time s ≤ time (call s).2

theorem TimedCalls.ordered {time : σ → Nat} (hback : NeverBack (clock.read gauges) call time)
    {s s' : σ} {readings : List (Nat × Nat)} (h : TimedCalls gauges clock call s readings s') :
    ∀ r ∈ readings, r.1 ≤ r.2 := by
  refine h.forall_readings fun {s s₁ s₂ s₃ before after} hbefore hcall hafter => ?_
  have hfirst := hback.reading_le s
  have hsecond := hback.le_call s₁
  have hthird := hback.le_reading s₂
  rw [hbefore] at hfirst
  rw [hcall] at hsecond
  rw [hafter] at hthird
  exact hfirst.trans (hsecond.trans hthird)

/-! ### Samples that are not negative -/

namespace Clock

section
variable {before after : Nat}

/-- **The time of a call is not negative exactly if the clock does not show less after it.** -/
theorem elapsed_nonneg_iff (hclock : clock.Started) (hbefore : before < longest)
    (hafter : after < longest) :
    0.0 ≤ clock.elapsed (before, after) ↔ clock.shows before ≤ clock.shows after :=
  (isAmount_shows hclock hbefore).nonneg_sub_iff (isAmount_shows hclock hafter)

end

end Clock

namespace Sampler

/-- A sampler's clock had a reading when the sampler was made. -/
theorem started_start (hwall : ∀ s, (gauges.wall s).1 < longest) (capabilities : Capabilities)
    (s : σ) : (start gauges capabilities s).1.clock.Started :=
  Clock.started_start hwall _ s

section
variable {sampler : Sampler} {sampling : Sampling} {s s' : σ} {t : TestResult}

/-- **A sample is negative exactly if the clock shows less right after the call** than right before
it. -/
theorem tryRun_nonneg_iff (hclock : sampler.clock.Started)
    (hbound : ∀ s, (sampler.clock.read gauges s).1 < longest)
    (h : (sampler.tryRun gauges sampling call).run s = (.ok (.ok t), s')) :
    ∃ s₁ readings s₂, TimedCalls gauges sampler.clock call s₁ readings s₂ ∧
      t.samples = readings.map sampler.clock.elapsed ∧
      ∀ r ∈ readings, (0.0 ≤ sampler.clock.elapsed r ↔
        sampler.clock.shows r.1 ≤ sampler.clock.shows r.2) := by
  obtain ⟨s₁, readings, s₂, htimed, -, hsamples⟩ := TimedCalls.of_tryRun h
  refine ⟨s₁, readings, s₂, htimed, hsamples, fun r hr => ?_⟩
  obtain ⟨hbefore, hafter⟩ := htimed.bounded hbound r hr
  exact Clock.elapsed_nonneg_iff hclock hbefore hafter

/-- **No sample is negative on a source that never goes back**: the monotonic one, or a wall clock
that nobody sets back. -/
theorem tryRun_nonneg {time : σ → Nat} (hclock : sampler.clock.Started)
    (hbound : ∀ s, (sampler.clock.read gauges s).1 < longest)
    (hback : NeverBack (sampler.clock.read gauges) call time)
    (h : (sampler.tryRun gauges sampling call).run s = (.ok (.ok t), s')) : ∀ x ∈ t.samples, 0.0 ≤ x := by
  obtain ⟨s₁, readings, s₂, htimed, hsamples, hsigns⟩ := tryRun_nonneg_iff hclock hbound h
  rw [hsamples]
  intro x hx
  obtain ⟨r, hr, rfl⟩ := List.mem_map.mp hx
  obtain ⟨-, hafter⟩ := htimed.bounded hbound r hr
  exact (hsigns r hr).mpr (Clock.shows_mono hclock hafter (htimed.ordered hback r hr))

end

/-- Clocks that tick at each reading, up to a second. -/
def ticking : Gauges (StateM Nat) where
  monotonic n := (min n Span.second, n + 1)
  wall n := (min n Span.second, n + 1)
  status := pure none

theorem neverBack_ticking (clock : Clock) (call : StateM Nat (Except ε Unit))
    (hcall : ∀ n, n ≤ (call n).2) :
    NeverBack (clock.read ticking) call (fun n => min n Span.second) := by
  have hread (n : Nat) : clock.read ticking n = (min n Span.second, n + 1) := by
    unfold Clock.read
    cases clock.source <;> rfl
  refine ⟨fun n => ?_, fun n => ?_, fun n => min_le_min_right _ (hcall n)⟩
  · rw [hread]
  · rw [hread]
    exact min_le_min_right _ (Nat.le_succ n)

theorem tryRun_nonneg_of_ticking :
    ∃ sampler t, start ticking ⟨true, false⟩ 0 = (sampler, 2) ∧
      (sampler.tryRun ticking ⟨"w", 2, 1⟩ (pure (Except.ok () : Except String Unit))).run 2 =
        (.ok (.ok t), 6) ∧ ∀ x ∈ t.samples, 0.0 ≤ x := by
  let sampler := (start ticking ⟨true, false⟩ 0).1
  let call : StateM Nat (Except String Unit) := pure (.ok ())
  obtain ⟨t, ht⟩ : ∃ t, (sampler.tryRun ticking ⟨"w", 2, 1⟩ call).run 2 = (.ok (.ok t), 6) := ⟨_, rfl⟩
  have hsecond (n : Nat) : min n Span.second < longest :=
    (min_le_right _ _).trans_lt (by decide)
  have hclock : sampler.clock.Started := started_start hsecond _ _
  have hback := neverBack_ticking sampler.clock call fun n => le_refl n
  exact ⟨sampler, t, rfl, ht, tryRun_nonneg hclock hsecond hback ht⟩

/-- A wall clock that is set back by five milliseconds at its third reading. -/
def setBack : Gauges (StateM Nat) where
  monotonic := pure 0
  wall n := ([0, 10000000, 5000000].getD n 0, n + 1)
  status := pure none

/-- **But a wall clock that is set back during a call makes its sample negative**, although the
clock shows no negative time. -/
theorem setBack_negative :
    ∃ sampler t, start setBack .minimal 0 = (sampler, 1) ∧
      (sampler.tryRun setBack ⟨"w", 1, 0⟩ (pure (Except.ok () : Except String Unit))).run 1 =
        (.ok (.ok t), 3) ∧ ∃ x ∈ t.samples, x < 0.0 := by
  refine ⟨_, _, rfl, rfl, _, List.mem_singleton.mpr rfl, ?_⟩
  decide +kernel

end Sampler

end Stopwatch
