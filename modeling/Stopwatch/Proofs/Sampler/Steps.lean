import Stopwatch.Proofs.Sampler.TimedCalls

/-!
# The steps of a measurement

A measurement calls its workload, reads the clock and looks at the status text. To speak about these steps,
gauges and workload are *noted*: every call, every reading of either source and every look is written down
with what came of it, in order, next to the state, and nothing else changes. A measurement makes its warmup
calls, looks, sets room for the samples aside, makes its timed calls with a reading right before and right
after each, and looks again; its first failure ends it, and figures or counts that are too large end the
program.

- `Sampler.Step`, `Gauges.noted`: the steps, and gauges with the steps written down;
- `Sampler.Takes`: an action takes some steps. Conditions of actions in sequence come from those of the
  actions (`Takes.bind`, `Takes.bindT`);
- `Sampler.BrokenOff`, `Sampler.Finished`, `Sampler.Halted`: the ways in which a measurement ends;
- `Sampler.takes_tryRun`: the steps of a measurement.
-/

namespace Stopwatch

namespace Sampler

/-- A step of a measurement, with what came of it. A call is told how many units of work to do, if they are
counted. -/
inductive Step (ε : Type) where
  | call (units : Option Nat) (outcome : Except ε Unit)
  | reading (source : ClockSource) (t : Nat)
  | look (status : Option String)

/-- Actions on a state with the steps so far beside it. -/
abbrev Noted (σ ε : Type) := StateM (σ × List (Step ε))

variable {σ ε α β : Type}

/-- An action that is a step. -/
def noted (step : α → Step ε) (act : StateM σ α) : Noted σ ε α := fun (s, steps) =>
  let (a, s') := act s
  (a, s', steps ++ [step a])

end Sampler

open Sampler in
/-- The gauges with every use written down. -/
def Gauges.noted {σ ε : Type} (gauges : Gauges (StateM σ)) : Gauges (Noted σ ε) where
  monotonic := Sampler.noted (.reading .monotonic) gauges.monotonic
  wall := Sampler.noted (.reading .wall) gauges.wall
  status := Sampler.noted .look gauges.status

namespace Sampler

variable {σ ε α β : Type}

/-! ### What actions do -/

/-- With its steps written down, the first action is the second one, and its answer and its steps are as a
condition says. -/
def Takes (act : Noted σ ε α) (plain : StateM σ α) (Q : α → List (Step ε) → Prop) : Prop :=
  ∀ s, ∃ steps, (∀ before, act (s, before) = ((plain s).1, (plain s).2, before ++ steps)) ∧
    Q (plain s).1 steps

namespace Takes

variable {act : Noted σ ε α} {plain : StateM σ α} {Q Q' : α → List (Step ε) → Prop}

theorem mono (h : Takes act plain Q) (hQ : ∀ a steps, Q a steps → Q' a steps) :
    Takes act plain Q' := by
  intro s
  obtain ⟨steps, heq, hsteps⟩ := h s
  exact ⟨steps, heq, hQ _ _ hsteps⟩

theorem pure {a : α} (h : Q a []) : Takes (Pure.pure a : Noted σ ε α) (Pure.pure a) Q :=
  fun s => ⟨[], fun before => by rw [List.append_nil]; rfl, h⟩

/-- The steps of two actions in sequence are those of the first and then those of the second. -/
theorem bind {f : α → Noted σ ε β} {g : α → StateM σ β} {R : β → List (Step ε) → Prop}
    (h : Takes act plain Q)
    (hf : ∀ a first, Q a first → Takes (f a) (g a) fun b second => R b (first ++ second)) :
    Takes (act >>= f) (plain >>= g) R := by
  intro s
  obtain ⟨first, hact, hfirst⟩ := h s
  obtain ⟨second, hnext, hsecond⟩ := hf _ first hfirst (plain s).2
  refine ⟨first ++ second, fun before => ?_, hsecond⟩
  show f (act (s, before)).1 (act (s, before)).2 = _
  rw [hact, ← List.append_assoc]
  exact hnext (before ++ first)

theorem noted (step : α → Step ε) (plain : StateM σ α) :
    Takes (Sampler.noted step plain) plain fun a steps => steps = [step a] :=
  fun _ => ⟨_, fun _ => rfl, rfl⟩

/-! The same of actions that may end the program. Its end is one more answer, and has the steps so far. -/

section
variable {β : Type} {f : α → ExceptT Halt (Noted σ ε) β} {g : α → ExceptT Halt (StateM σ) β}
  {R : Except Halt β → List (Step ε) → Prop}

theorem lift_bind (h : Takes act plain Q)
    (hf : ∀ a first, Q a first → Takes (f a).run (g a).run fun b second => R b (first ++ second)) :
    Takes (liftM act >>= f).run (liftM plain >>= g).run R := by
  show Takes (ExceptT.lift act >>= f).run (ExceptT.lift plain >>= g).run R
  rw [ExceptT.run_bind_lift, ExceptT.run_bind_lift]
  exact h.bind hf

theorem bindT {act : ExceptT Halt (Noted σ ε) α} {plain : ExceptT Halt (StateM σ) α}
    {Q : Except Halt α → List (Step ε) → Prop} (h : Takes act.run plain.run Q)
    (hok : ∀ a first, Q (.ok a) first →
      Takes (f a).run (g a).run fun b second => R b (first ++ second))
    (herror : ∀ e first, Q (.error e) first → R (.error e) first) :
    Takes (act >>= f).run (plain >>= g).run R := by
  rw [ExceptT.run_bind, ExceptT.run_bind]
  refine h.bind fun answer first hfirst => ?_
  cases answer with
  | ok a => exact hok a first hfirst
  | error e =>
    refine .pure ?_
    rw [List.append_nil]
    exact herror e first hfirst

/-- A check takes no steps. -/
theorem check {check : Except Halt α} (hok : ∀ a, check = .ok a → Takes (f a).run (g a).run R)
    (herror : ∀ e, check = .error e → R (.error e) []) :
    Takes (liftM check >>= f).run (liftM check >>= g).run R := by
  cases check with
  | ok a => exact hok a rfl
  | error e => exact .pure (herror e rfl)

end

end Takes

/-! ### Readings and looks -/

variable (gauges : Gauges (StateM σ))

/-- A clock shows one reading of its own source. -/
theorem takes_now (clock : Clock) :
    Takes (ε := ε) (clock.now gauges.noted) (clock.now gauges) fun x steps =>
      ∃ t, x = clock.shows t ∧ steps = [.reading clock.source t] := by
  unfold Clock.now Clock.shows
  cases clock.source with
  | monotonic =>
    refine (Takes.noted (.reading .monotonic) gauges.monotonic).bind fun t first hfirst => ?_
    exact .pure ⟨t, rfl, by rw [hfirst]; rfl⟩
  | wall =>
    refine (Takes.noted (.reading .wall) gauges.wall).bind fun t first hfirst => ?_
    exact .pure ⟨t, rfl, by rw [hfirst]; rfl⟩

/-- A sampler looks at the status text if it may. -/
def looks (sampler : Sampler) (status : Option String) : List (Step ε) :=
  if sampler.capabilities.hasMemoryFigures then [.look status] else []

/-- The memory figures that a sampler reads in the status text, if it may. -/
def seen? (sampler : Sampler) (status : Option String) : Except Halt (Option Memory.Snapshot) :=
  if sampler.capabilities.hasMemoryFigures then figures? status else .ok none

theorem takes_snapshot (sampler : Sampler) :
    Takes (ε := ε) (sampler.snapshot? gauges.noted).run (sampler.snapshot? gauges).run
      fun snapshot steps => ∃ status, snapshot = sampler.seen? status ∧
        steps = sampler.looks status := by
  unfold snapshot? seen? looks
  split
  · refine (Takes.noted .look gauges.status).lift_bind fun status first hfirst => ?_
    exact .pure ⟨status, rfl, by rw [hfirst]; rfl⟩
  · exact .pure ⟨none, rfl, rfl⟩

/-! ### The loops -/

/-- So many calls that succeeded. -/
def passes (units : Option Nat) (n : Nat) : List (Step ε) := List.replicate n (.call units (.ok ()))

/-- A call that succeeded, between two readings. -/
def timed (units : Option Nat) (clock : Clock) (readings : Nat × Nat) : List (Step ε) :=
  [.reading clock.source readings.1, .call units (.ok ()), .reading clock.source readings.2]

/-- So many calls were made, up to the first failure. -/
inductive Called (units : Option Nat) (n : Nat) : Except ε Unit → List (Step ε) → Prop
  | all : Called units n (.ok ()) (passes units n)
  | failed {k : Nat} {e : ε} (h : k < n) :
      Called units n (.error e) (passes units k ++ [.call units (.error e)])

/-- So many calls were timed, up to the first failure. -/
inductive Sampled (units : Option Nat) (clock : Clock) (n : Nat) :
    Except ε (List Float) → List (Step ε) → Prop
  | all {readings : List (Nat × Nat)} (h : readings.length = n) :
      Sampled units clock n (.ok (readings.map clock.elapsed)) (readings.flatMap (timed units clock))
  | failed {readings : List (Nat × Nat)} {before after : Nat} {e : ε} (h : readings.length < n) :
      Sampled units clock n (.error e) (readings.flatMap (timed units clock) ++
        [.reading clock.source before, .call units (.error e), .reading clock.source after])

variable {units : Option Nat}

theorem Called.succ {n : Nat} {outcome : Except ε Unit} {steps : List (Step ε)}
    (h : Called units n outcome steps) :
    Called units (n + 1) outcome (.call units (.ok ()) :: steps) := by
  cases h with
  | all => exact .all
  | failed h => exact .failed (Nat.succ_lt_succ h)

theorem takes_warmUp (call : StateM σ (Except ε Unit)) (n : Nat) :
    Takes (warmUp (noted (.call units) call) n) (warmUp call n) (Called units n) := by
  induction n with
  | zero => exact .pure .all
  | succ n ih =>
    refine (Takes.noted (.call units) call).bind fun outcome first hfirst => ?_
    subst hfirst
    cases outcome with
    | error e => exact .pure (.failed (Nat.succ_pos n))
    | ok _ => exact ih.mono fun _ _ hrest => hrest.succ

variable (clock : Clock)

theorem takes_time (call : StateM σ (Except ε Unit)) :
    Takes (time gauges.noted clock (noted (.call units) call)) (time gauges clock call) fun p steps =>
      ∃ before after, p.2 = clock.elapsed (before, after) ∧
        steps = [.reading clock.source before, .call units p.1, .reading clock.source after] := by
  refine (takes_now gauges clock).bind fun _ first hfirst => ?_
  refine (Takes.noted (.call units) call).bind fun outcome second hsecond => ?_
  refine (takes_now gauges clock).bind fun _ third hthird => ?_
  obtain ⟨before, rfl, rfl⟩ := hfirst
  obtain ⟨after, rfl, rfl⟩ := hthird
  exact .pure ⟨before, after, rfl, by rw [hsecond]; rfl⟩

theorem Sampled.cons {n : Nat} {rest : List Float} {steps : List (Step ε)}
    (h : Sampled units clock n (.ok rest) steps) (before after : Nat) :
    Sampled units clock (n + 1) (.ok (clock.elapsed (before, after) :: rest))
      (timed units clock (before, after) ++ steps) := by
  cases h with
  | @all readings h =>
    have hlength : ((before, after) :: readings).length = n + 1 := congrArg Nat.succ h
    exact .all hlength

theorem Sampled.cons_error {n : Nat} {e : ε} {steps : List (Step ε)}
    (h : Sampled units clock n (.error e) steps) (before after : Nat) :
    Sampled units clock (n + 1) (.error e) (timed units clock (before, after) ++ steps) := by
  cases h with
  | @failed readings _ _ _ h =>
    have hlength : ((before, after) :: readings).length < n + 1 := Nat.succ_lt_succ h
    rw [← List.append_assoc]
    exact .failed hlength

theorem takes_samples (call : StateM σ (Except ε Unit)) (n : Nat) :
    Takes (samples gauges.noted clock (noted (.call units) call) n) (samples gauges clock call n)
      (Sampled units clock n) := by
  induction n with
  | zero =>
    have hlength : ([] : List (Nat × Nat)).length = 0 := rfl
    exact .pure (.all hlength)
  | succ n ih =>
    refine (takes_time gauges clock call).bind fun p first hfirst => ?_
    obtain ⟨outcome, elapsed⟩ := p
    obtain ⟨before, after, helapsed, rfl⟩ := hfirst
    cases outcome with
    | error e =>
      have hlength : ([] : List (Nat × Nat)).length < n + 1 := Nat.succ_pos n
      exact .pure (.failed hlength)
    | ok _ =>
      obtain rfl := helapsed
      refine ih.bind fun answer second hsecond => ?_
      cases answer with
      | error e => exact .pure (by rw [List.append_nil]; exact hsecond.cons_error clock before after)
      | ok rest => exact .pure (by rw [List.append_nil]; exact hsecond.cons clock before after)

/-! ### The whole measurement -/

/-- The outcomes of the calls among some steps. -/
def outcomes (steps : List (Step ε)) : List (Except ε Unit) :=
  steps.filterMap fun
    | .call _ outcome => some outcome
    | _ => none

/-- A measurement that its last call broke off, which was the first to fail. -/
def BrokenOff (sampling : Sampling) (e : ε) (steps : List (Step ε)) : Prop :=
  ∃ k < sampling.warmup + sampling.iterations,
    outcomes steps = List.replicate k (.ok ()) ++ [.error e]

/-- A measurement that made all its calls. The samples are the differences of the readings around the timed
calls, and there is a memory delta if there was a timed call and figures before and after them. -/
structure FinishedWith (sampler : Sampler) (sampling : Sampling) (units : Option Nat) (t : TestResult)
    (steps : List (Step ε)) (readings : List (Nat × Nat)) (before after : Option String)
    (first last : Option Memory.Snapshot) (delta : Option Memory.Delta) : Prop where
  order : steps = passes units sampling.warmup ++ (sampler.looks before ++
    (readings.flatMap (timed units sampler.clock) ++ sampler.looks after))
  calls : outcomes steps = List.replicate (sampling.warmup + sampling.iterations) (.ok ())
  count : readings.length = sampling.iterations
  seen : sampler.seen? before = .ok first ∧ sampler.seen? after = .ok last
  difference : memoryDelta first last = .ok delta
  result : t = .ofSamples sampling.name sampling.warmup (readings.map sampler.clock.elapsed) delta
  memory : t.memory.isSome = true ↔ 0 < sampling.iterations ∧ first.isSome = true ∧ last.isSome = true

/-- A measurement that made all its calls, with some readings and some memory figures. -/
def Finished (sampler : Sampler) (sampling : Sampling) (units : Option Nat) (t : TestResult)
    (steps : List (Step ε)) : Prop :=
  ∃ readings before after first last delta,
    FinishedWith sampler sampling units t steps readings before after first last delta

/-- A measurement that ended the program after some calls, none of which failed: there was no room for the
samples, or figures before or after the timed calls were too large to be told in bytes. -/
inductive Halted (sampler : Sampler) (sampling : Sampling) (units : Option Nat) :
    Halt → List (Step ε) → Prop
  | room {status : Option String} (h : sampleLimit ≤ sampling.iterations) :
      Halted sampler sampling units .tooManySamples
        (passes units sampling.warmup ++ sampler.looks status)
  | first {status : Option String} {e : Halt} (h : sampler.seen? status = .error e) :
      Halted sampler sampling units e (passes units sampling.warmup ++ sampler.looks status)
  | last {readings : List (Nat × Nat)} {before after : Option String} {e : Halt}
      (hcount : readings.length = sampling.iterations) (h : sampler.seen? after = .error e) :
      Halted sampler sampling units e (passes units sampling.warmup ++ (sampler.looks before ++
        (readings.flatMap (timed units sampler.clock) ++ sampler.looks after)))

/-- The end of a measurement after some steps. -/
def Ends (sampler : Sampler) (sampling : Sampling) (units : Option Nat) :
    Except Halt (Except ε TestResult) → List (Step ε) → Prop
  | .error e => Halted sampler sampling units e
  | .ok (.error e) => BrokenOff sampling e
  | .ok (.ok t) => Finished sampler sampling units t

theorem outcomes_append (first second : List (Step ε)) :
    outcomes (first ++ second) = outcomes first ++ outcomes second := List.filterMap_append

theorem outcomes_passes (n : Nat) :
    outcomes (passes units n : List (Step ε)) = List.replicate n (.ok ()) :=
  List.filterMap_replicate_of_some rfl

theorem outcomes_looks (sampler : Sampler) (status : Option String) :
    outcomes (sampler.looks status : List (Step ε)) = [] := by
  unfold looks
  split <;> rfl

theorem outcomes_timed (readings : List (Nat × Nat)) :
    outcomes (readings.flatMap (timed units clock) : List (Step ε)) =
      List.replicate readings.length (.ok ()) := by
  induction readings with
  | nil => rfl
  | cons r readings ih =>
    rw [List.flatMap_cons, outcomes_append, ih]
    rfl

theorem finishedWith_ofSamples {sampler : Sampler} {sampling : Sampling}
    {readings : List (Nat × Nat)} {before after : Option String} {first last : Option Memory.Snapshot}
    {delta : Option Memory.Delta} (h : readings.length = sampling.iterations)
    (hfirst : sampler.seen? before = .ok first) (hlast : sampler.seen? after = .ok last)
    (hdelta : memoryDelta first last = .ok delta)
    (hmemory : delta.isSome = true ↔ first.isSome = true ∧ last.isSome = true) :
    FinishedWith (ε := ε) sampler sampling units
      (.ofSamples sampling.name sampling.warmup (readings.map sampler.clock.elapsed) delta)
      (passes units sampling.warmup ++ (sampler.looks before ++
        (readings.flatMap (timed units sampler.clock) ++ sampler.looks after)))
      readings before after first last delta where
  order := rfl
  calls := by
    rw [outcomes_append, outcomes_append, outcomes_append, outcomes_passes, outcomes_looks,
      outcomes_looks, outcomes_timed, List.nil_append, List.append_nil,
      List.replicate_append_replicate, h]
  count := h
  seen := ⟨hfirst, hlast⟩
  difference := hdelta
  result := rfl
  memory := by
    rw [← h, List.length_pos_iff, TestResult.ofSamples, List.isEmpty_map, ← hmemory]
    cases readings <;> simp

theorem Finished.iterations {sampler : Sampler} {sampling : Sampling} {t : TestResult}
    {steps : List (Step ε)} (h : Finished sampler sampling units t steps) :
    t.iterations = sampling.iterations := by
  obtain ⟨readings, _, _, _, _, _, hwith⟩ := h
  rw [hwith.result, ← hwith.count]
  exact List.length_map _

/-- **A measurement takes its steps in order**, up to the first failure. -/
theorem takes_tryRun (sampler : Sampler) (sampling : Sampling) (units : Option Nat)
    (call : StateM σ (Except ε Unit)) :
    Takes (sampler.tryRun gauges.noted sampling (noted (.call units) call)).run
      (sampler.tryRun gauges sampling call).run (sampler.Ends sampling units) := by
  refine (takes_warmUp call sampling.warmup).lift_bind fun outcome first hfirst => ?_
  cases hfirst with
  | failed h =>
    -- nothing was read yet
    refine .pure ⟨_, Nat.lt_add_right _ h, ?_⟩
    rw [List.append_nil, outcomes_append, outcomes_passes]
    rfl
  | all =>
    refine (takes_snapshot gauges sampler).bindT (fun snapshot second hsecond => ?_) ?_
    · obtain ⟨before, hbefore, rfl⟩ := hsecond
      refine .check (fun _ _ => ?_) fun e hroom => ?_
      · refine (takes_samples gauges sampler.clock call sampling.iterations).lift_bind
          fun answer third hthird => ?_
        cases hthird with
        | @failed readings _ _ e h =>
          -- the calls in front of the failure are the warmup and those with readings around them
          refine .pure ⟨sampling.warmup + readings.length, Nat.add_lt_add_left h _, ?_⟩
          rw [List.append_nil, outcomes_append, outcomes_append, outcomes_append, outcomes_passes,
            outcomes_looks, outcomes_timed, List.nil_append, ← List.append_assoc,
            List.replicate_append_replicate]
          rfl
        | @all readings h =>
          refine (takes_snapshot gauges sampler).bindT (fun last fourth hfourth => ?_) ?_
          · obtain ⟨after, hafter, rfl⟩ := hfourth
            obtain ⟨delta, hdelta, hmemory⟩ := memoryDelta_eq_ok snapshot last
            rw [hdelta]
            refine .pure ⟨readings, before, after, snapshot, last, delta, ?_⟩
            rw [List.append_nil]
            exact finishedWith_ofSamples h hbefore.symm hafter.symm hdelta hmemory
          · rintro e fourth ⟨after, hafter, rfl⟩
            exact .last h hafter.symm
      · obtain ⟨hlimit, rfl⟩ := reserve_eq_error_iff.mp hroom
        rw [List.append_nil]
        exact .room hlimit
    · rintro e second ⟨before, hbefore, rfl⟩
      exact .first hbefore.symm

end Sampler

end Stopwatch
