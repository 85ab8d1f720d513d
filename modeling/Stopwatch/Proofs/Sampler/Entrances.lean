import Stopwatch.Proofs.Decimal.Finite
import Stopwatch.Proofs.Sampler.Steps

/-!
# The entrances of the sampler

A workload that cannot fail is measured by `run`, or by `runWithWork` if its units are counted, and both are
the measurement of a workload that may fail, as it is for one that never does: no call, reading or look is
added, left out or put elsewhere. The throughput is the one that the workload has in a category.

- `Sampler.unfailing`, `Sampler.straight`: such a workload, and its measurement without an error in sight;
- `Sampler.tryRun_unfailing`: what the entrances have in common;
- `Sampler.isSome_opsPerSecond?_iff`: when there is a throughput;
- `Category.measure_around`: a workload among others of its category;
- `Sampler.times_measured_calls`: the entrances side by side.
-/

namespace Stopwatch

namespace Sampler

/-! ### Workloads that cannot fail -/

section
variable {m : Type → Type} [Monad m] {ε : Type}

/-- A call that cannot fail, taken for one that may. -/
def unfailing (ε : Type) (call : m Unit) : m (Except ε Unit) := do
  call
  pure (.ok ())

/-- So many calls that cannot fail. -/
def straightCalls (call : m Unit) : Nat → m Unit
  | 0 => pure ()
  | n + 1 => do
    call
    straightCalls call n

/-- The times of so many calls that cannot fail. -/
def straightSamples (gauges : Gauges m) (clock : Clock) (call : m Unit) : Nat → m (List Float)
  | 0 => pure []
  | n + 1 => do
    let before ← clock.now gauges
    call
    let after ← clock.now gauges
    let rest ← straightSamples gauges clock call n
    pure ((after - before) :: rest)

/-- The measurement of a workload that cannot fail, without an error in sight. -/
def straight (gauges : Gauges m) (sampler : Sampler) (sampling : Sampling) (call : m Unit) :
    ExceptT Halt m TestResult := do
  (straightCalls call sampling.warmup : m _)
  let before ← sampler.snapshot? gauges
  reserve sampling.iterations
  let times ← (straightSamples gauges sampler.clock call sampling.iterations : m _)
  let after ← sampler.snapshot? gauges
  let delta ← memoryDelta before after
  pure (.ofSamples sampling.name sampling.warmup times delta)

variable [LawfulMonad m] (gauges : Gauges m) (sampler : Sampler) (sampling : Sampling)
  (call : m Unit)

theorem unfailing_bind {α : Type} (f : Except ε Unit → m α) :
    unfailing ε call >>= f = (do call; f (.ok ())) := by
  simp only [unfailing, bind_assoc, pure_bind]

theorem warmUp_unfailing (n : Nat) :
    warmUp (unfailing ε call) n = (do straightCalls call n; pure (.ok ())) := by
  induction n with
  | zero => simp only [warmUp, straightCalls, pure_bind]
  | succ n ih => simp only [warmUp, straightCalls, unfailing_bind, bind_assoc, ih]

theorem samples_unfailing (clock : Clock) (n : Nat) :
    samples gauges clock (unfailing ε call) n =
      (do let times ← straightSamples gauges clock call n; pure (.ok times)) := by
  induction n with
  | zero => simp only [samples, straightSamples, pure_bind]
  | succ n ih =>
    simp only [samples, time, straightSamples, unfailing_bind, ih, bind_assoc, pure_bind]

theorem tryRun_unfailing_eq_straight :
    sampler.tryRun gauges sampling (unfailing ε call) =
      (do let t ← sampler.straight gauges sampling call; pure (.ok t)) := by
  simp only [tryRun, straight, warmUp_unfailing, samples_unfailing, liftM_bind, liftM_pure, bind_assoc,
    pure_bind]

theorem run_eq_straight :
    sampler.run gauges sampling call = sampler.straight gauges sampling call := by
  have htry := tryRun_unfailing_eq_straight (ε := Empty) gauges sampler sampling call
  unfold unfailing at htry
  simp only [run, htry, bind_assoc, pure_bind, successOf, bind_pure]

/-- **The measurement of a workload that cannot fail is one and the same**, whatever failures it is
declared to have. -/
theorem tryRun_unfailing :
    sampler.tryRun gauges sampling (unfailing ε call) =
      (do let t ← sampler.run gauges sampling call; pure (.ok t)) := by
  rw [run_eq_straight, tryRun_unfailing_eq_straight]

end

section
variable {τ : Type} {gauges : Gauges (StateM τ)} {sampler : Sampler} {sampling : Sampling}
  {x x' : τ} {answer : Except Halt TestResult}

theorem map_ok_eq_iff {ε : Type} {first second : Except Halt TestResult} :
    first.map (.ok : TestResult → Except ε TestResult) = second.map .ok ↔ first = second := by
  constructor
  · intro h
    cases first <;> cases second <;> cases h <;> rfl
  · rintro rfl
    rfl

theorem tryRun_unfailing_apply (ε : Type) {call : StateM τ Unit} :
    (sampler.tryRun gauges sampling (unfailing ε call)).run x = (answer.map .ok, x') ↔
      (sampler.run gauges sampling call).run x = (answer, x') := by
  obtain ⟨u, y, hrun⟩ : ∃ u y, (sampler.run gauges sampling call).run x = (u, y) := ⟨_, _, rfl⟩
  have htry : (sampler.tryRun gauges sampling (unfailing ε call)).run x = (u.map .ok, y) := by
    rw [tryRun_unfailing, ExceptT.run_bind, run_bind_of_eq hrun]
    cases u <;> rfl
  rw [hrun, htry, Prod.mk.injEq, Prod.mk.injEq, map_ok_eq_iff]

theorem runWithWork_apply {units : Nat} {call : Nat → StateM τ Unit}
    (h : (sampler.run gauges sampling (call units)).run x = (answer, x')) :
    (sampler.runWithWork gauges sampling units call).run x =
      (answer.map (withThroughput units), x') := by
  unfold runWithWork
  rw [ExceptT.run_bind, run_bind_of_eq h]
  cases answer <;> rfl

end

/-- Calls that cannot fail, each written down with its units. -/
def counted {σ : Type} (ε : Type) (call : Nat → StateM σ Unit) (units : Nat) : Noted σ ε Unit :=
  noted (fun _ => .call (some units) (.ok ())) (call units)

/-- The steps of a workload that cannot fail are those of the one that it is taken for. -/
theorem unfailing_counted {σ : Type} (ε : Type) (call : Nat → StateM σ Unit) (units : Nat) :
    unfailing ε (counted ε call units) = noted (.call (some units)) (unfailing ε (call units)) := rfl

/-! ### Throughput -/

/-- Of a finite float it can be told whether it is above zero. -/
theorem not_le_zero_iff {x : Float} (h : Decimal.isFinite x = true) : ¬x ≤ 0.0 ↔ 0.0 < x := by
  have hzero : (0.0 : Float).toModel.unpack = .zero .positive := rfl
  have hfinite : Decimal.Within 971 x.toModel.unpack := Decimal.isFinite_iff_below.mp h
  rw [Decimal.le_iff, Decimal.lt_iff, hzero]
  generalize x.toModel.unpack = u at hfinite
  cases hfinite with
  | zero s => exact iff_of_false (fun hnot => hnot rfl) nofun
  | finite s m hm he =>
    cases s with
    | positive => exact iff_of_true nofun rfl
    | negative => exact iff_of_false (fun hnot => hnot rfl) nofun

/-- **There is a throughput exactly if some time has passed.** -/
theorem isSome_opsPerSecond?_iff {total : Float} (h : Decimal.isFinite total = true)
    (units iterations : Nat) :
    (opsPerSecond? units iterations total).isSome = true ↔ 0.0 < total := by
  rw [← not_le_zero_iff h, opsPerSecond?]
  split
  · rename_i hle
    exact iff_of_false Bool.false_ne_true (fun hnot => hnot hle)
  · rename_i hle
    exact iff_of_true rfl hle

theorem map_congr_of_ok {ε α β : Type} {f g : α → β} {answer : Except ε α}
    (h : ∀ a, answer = .ok a → f a = g a) : answer.map f = answer.map g := by
  cases answer with
  | error e => rfl
  | ok a => exact congrArg Except.ok (h a rfl)

/-- The throughput counts the calls that were asked for, which are all that were made. -/
theorem map_withThroughput {ε : Type} {sampler : Sampler} {sampling : Sampling} {units : Nat}
    {answer : Except Halt TestResult} {steps : List (Step ε)}
    (hends : sampler.Ends sampling (some units) (answer.map .ok) steps) :
    answer.map (withThroughput units) = answer.map fun t =>
      { t with opsPerSecond := opsPerSecond? units sampling.iterations t.stats.total } := by
  refine map_congr_of_ok fun t ht => ?_
  subst ht
  have hiterations : t.iterations = sampling.iterations := Finished.iterations hends
  rw [withThroughput, hiterations]

end Sampler

/-! ### Workloads among others -/

/-- A workload that cannot fail and whose units are counted. -/
def Workload.ofWork {m : Type → Type} [Monad m] (sampling : Sampling) (units : Nat)
    (call : Nat → m Unit) : Workload m :=
  ⟨sampling, some units, Sampler.unfailing String (call units)⟩

theorem Workload.measure_ofWork {m : Type → Type} [Monad m] [LawfulMonad m] (gauges : Gauges m)
    (sampler : Sampler) (sampling : Sampling) (units : Nat) (call : Nat → m Unit) :
    (Workload.ofWork sampling units call).measure gauges sampler =
      (do let t ← sampler.runWithWork gauges sampling units call; pure (.ok t)) := by
  simp only [measure, ofWork, Sampler.tryRun_unfailing, Sampler.runWithWork, bind_assoc, pure_bind]
  rfl

namespace Category

variable {σ : Type} {gauges : Gauges (StateM σ)} {sampler : Sampler} {name : String} {s s₁ s₂ : σ}

theorem measureAll_cons {w : Workload (StateM σ)} {ws : List (Workload (StateM σ))}
    {t : TestResult} {ts : List TestResult}
    (hw : (w.measure gauges sampler).run s = (.ok (.ok t), s₁))
    (hws : (measureAll gauges sampler name ws).run s₁ = (.ok (.ok ts), s₂)) :
    (measureAll gauges sampler name (w :: ws)).run s = (.ok (.ok (t :: ts)), s₂) := by
  unfold measureAll
  rw [ExceptT.run_bind, run_bind_of_eq hw]
  change (measureAll gauges sampler name ws >>= _).run s₁ = _
  rw [ExceptT.run_bind, run_bind_of_eq hws]
  rfl

/-- The measurements of one part of a category and then of the other. -/
theorem measureAll_append {ws ws' : List (Workload (StateM σ))} {ts ts' : List TestResult}
    (h : (measureAll gauges sampler name ws).run s = (.ok (.ok ts), s₁))
    (h' : (measureAll gauges sampler name ws').run s₁ = (.ok (.ok ts'), s₂)) :
    (measureAll gauges sampler name (ws ++ ws')).run s = (.ok (.ok (ts ++ ts')), s₂) := by
  induction ws generalizing s ts with
  | nil =>
    cases h
    exact h'
  | cons w ws ih =>
    obtain ⟨first, s', hw, h⟩ := of_run_bind_eq_ok h
    cases first with
    | error e => cases h
    | ok t =>
      obtain ⟨rest, s'', hws, h⟩ := of_run_bind_eq_ok h
      cases rest with
      | error e => cases h
      | ok us =>
        cases h
        exact measureAll_cons hw (ih hws)

/-- **A workload among others of its category has the result that it has on its own.** -/
theorem measure_around {sampling : Sampling} {units : Nat} {call : Nat → StateM σ Unit}
    {earlier later : List (Workload (StateM σ))} {ts us : List TestResult} {t : TestResult} {s₃ : σ}
    (hearlier : (measureAll gauges sampler name earlier).run s = (.ok (.ok ts), s₁))
    (hwork : (sampler.runWithWork gauges sampling units call).run s₁ = (.ok t, s₂))
    (hlater : (measureAll gauges sampler name later).run s₂ = (.ok (.ok us), s₃)) :
    (Category.measure gauges sampler
      ⟨name, earlier ++ .ofWork sampling units call :: later⟩).run s =
        (.ok (.ok ⟨name, ts ++ t :: us⟩), s₃) := by
  have hmeasure : ((Workload.ofWork sampling units call).measure gauges sampler).run s₁ =
      (.ok (.ok t), s₂) := by
    rw [Workload.measure_ofWork, ExceptT.run_bind, run_bind_of_eq hwork]
    rfl
  have hall := measureAll_append hearlier (measureAll_cons hmeasure hlater)
  unfold measure
  rw [ExceptT.run_bind, run_bind_of_eq hall]
  rfl

end Category

/-! ### The entrances side by side -/

namespace Sampler

/-- **The sampler times exactly the measured calls, through all its entrances.** A measurement ends at its
first failure, or it makes all its calls and the samples are the differences of the readings around the
timed ones; only counts and memory figures that are too large end the program instead. For a workload that
cannot fail, the three entrances take the same steps and have the same result, to which `runWithWork` adds
the throughput that the workload has in a category. -/
theorem times_measured_calls {σ : Type} (gauges : Gauges (StateM σ)) (sampler : Sampler)
    (sampling : Sampling) (s : σ) :
    (∀ {ε : Type} (call : StateM σ (Except ε Unit)), ∃ answer s' steps,
      (sampler.tryRun gauges sampling call).run s = (answer, s') ∧
      (sampler.tryRun gauges.noted sampling (noted (.call none) call)).run (s, []) =
        (answer, s', steps) ∧
      sampler.Ends sampling none answer steps) ∧
    ∀ (ε : Type) (units : Nat) (call : Nat → StateM σ Unit),
      ∃ (answer : Except Halt TestResult) (s' : σ) (steps : List (Step ε)),
      sampler.Ends sampling (some units) (answer.map .ok) steps ∧
      (sampler.tryRun gauges sampling (unfailing ε (call units))).run s = (answer.map .ok, s') ∧
      (sampler.tryRun gauges.noted sampling (unfailing ε (counted ε call units))).run (s, []) =
        (answer.map .ok, s', steps) ∧
      (sampler.run gauges sampling (call units)).run s = (answer, s') ∧
      (sampler.run gauges.noted sampling (counted ε call units)).run (s, []) = (answer, s', steps) ∧
      let counting (t : TestResult) : TestResult :=
        { t with opsPerSecond := opsPerSecond? units sampling.iterations t.stats.total }
      (sampler.runWithWork gauges sampling units call).run s = (answer.map counting, s') ∧
      (sampler.runWithWork gauges.noted sampling units (counted ε call)).run (s, []) =
        (answer.map counting, s', steps) ∧
      ∀ t, answer = .ok t →
        (Decimal.isFinite t.stats.total = true →
          ((counting t).opsPerSecond.isSome = true ↔ 0.0 < t.stats.total)) ∧
        ∀ (name : String) (earlier later : List (Workload (StateM σ))) (ts us : List TestResult)
          (s₀ s₁ : σ),
          (Category.measureAll gauges sampler name earlier).run s₀ = (.ok (.ok ts), s) →
          (Category.measureAll gauges sampler name later).run s' = (.ok (.ok us), s₁) →
          (Category.measure gauges sampler
            ⟨name, earlier ++ .ofWork sampling units call :: later⟩).run s₀ =
              (.ok (.ok ⟨name, ts ++ counting t :: us⟩), s₁) := by
  refine ⟨fun call => ?_, fun ε units call => ?_⟩
  · obtain ⟨steps, hnoted, hends⟩ := takes_tryRun gauges sampler sampling none call s
    exact ⟨_, _, steps, rfl, hnoted [], hends⟩
  · -- every entrance is `run`, here and where the steps are written down
    obtain ⟨answer, s', hrun⟩ :
      ∃ answer s', (sampler.run gauges sampling (call units)).run s = (answer, s') := ⟨_, _, rfl⟩
    have htry := (tryRun_unfailing_apply ε).mpr hrun
    obtain ⟨steps, hnoted, hends⟩ :=
      takes_tryRun gauges sampler sampling (some units) (unfailing ε (call units)) s
    rw [htry, ← unfailing_counted] at hnoted
    rw [htry] at hends
    have hrunNoted := (tryRun_unfailing_apply ε).mp (hnoted [])
    have hwork := runWithWork_apply hrun
    have hworkNoted := runWithWork_apply hrunNoted
    rw [map_withThroughput hends] at hwork hworkNoted
    refine ⟨answer, s', steps, hends, htry, hnoted [], hrun, hrunNoted, hwork, hworkNoted, ?_⟩
    rintro t rfl
    exact ⟨fun hfinite => isSome_opsPerSecond?_iff hfinite units sampling.iterations,
      fun name earlier later ts us s₀ s₁ hearlier hlater =>
        Category.measure_around hearlier hwork hlater⟩

/-- **But with a count that no list can hold, no timed call is made**, although already the first one would
fail. -/
theorem no_call_of_huge_count :
    (tryRun (⟨pure 0, pure 0, pure none⟩ : Gauges (StateM Nat)) ⟨⟨.monotonic, 0, 0.0⟩, .minimal⟩
      ⟨"x", 1152921504606846976, 0⟩
      fun calls => (Except.error "failed at call 1", calls + 1)).run 0 = (.error .tooManySamples, 0) :=
  rfl

end Sampler

end Stopwatch
