import Mathlib.Data.List.Forall2
import Stopwatch.Proofs.Sampler.Parts
import Stopwatch.Proofs.Session.Events

/-!
# What the measurement of a session visits

One lemma for each loop of a measurement, from the calls of a workload up to all
categories: the loop visits its turns, a success gives a full result, and a failure names
the workload that failed. The program ends where there is no room for the samples of a
workload, or where memory figures are too large. The loops nest, and each lemma is the one
below it put in sequence by `Visits.bind` or `VisitsT.bind`.
-/

namespace Stopwatch.Session

variable {σ : Type}

/-! ### Full results -/

/-- The test is a full result of the workload: it has the name and the counts of the
workload, a sample for each timed call and the figures of these samples. -/
structure FullTest (w : Workload (StateM σ)) (t : TestResult) : Prop where
  name : t.name = w.sampling.name
  warmup : t.warmup = w.sampling.warmup
  iterations : t.iterations = w.sampling.iterations
  samples : t.samples.length = w.sampling.iterations
  stats : t.stats = .ofSamples t.samples
  throughput : t.opsPerSecond = w.units.bind fun units =>
    opsPerSecond? units t.iterations t.stats.total

/-- The group is the full result of the category: every test is there, in order. -/
def FullGroup (c : Category (StateM σ)) (g : ResultGroup) : Prop :=
  g.category = c.name ∧ List.Forall₂ FullTest c.workloads g.tests

/-! ### The calls of a workload -/

variable (host : Host (StateM σ))

theorem unseen_now (clock : Clock) : Unseen (clock.now (watchedHost host).toGauges) := by
  unfold Clock.now
  cases clock.source with
  | monotonic => exact (Unseen.unseen host.monotonic).bind fun _ => .pure _
  | wall => exact (Unseen.unseen host.wall).bind fun _ => .pure _

theorem unseen_snapshot (sampler : Sampler) :
    Unseen (sampler.snapshot? (watchedHost host).toGauges).run := by
  unfold Sampler.snapshot?
  split
  · show Unseen (ExceptT.lift (unseen host.status) >>= _).run
    rw [ExceptT.run_bind_lift]
    exact (Unseen.unseen host.status).bind fun _ => .pure _
  · exact .pure _

/-- A status text of the host has memory figures that the program ends at. -/
def LargeFigures (sampler : Sampler) (e : Halt) : Prop :=
  sampler.capabilities.hasMemoryFigures = true ∧ ∃ s status, (host.status s).1 = some status ∧
    Memory.Snapshot.ofStatus? status = .error e

/-- A look ends the program only at such figures. -/
theorem largeFigures_of_snapshot {sampler : Sampler} {world : σ × List Event} {e : Halt}
    (h : ((sampler.snapshot? (watchedHost host).toGauges).run world).1 = .error e) :
    LargeFigures host sampler e := by
  unfold Sampler.snapshot? at h
  split at h
  · rename_i hfigures
    have hread : Sampler.figures? (host.status world.1).1 = .error e := h
    cases hstatus : (host.status world.1).1 with
    | none =>
      rw [hstatus] at hread
      cases hread
    | some status =>
      rw [hstatus] at hread
      exact ⟨hfigures, world.1, status, hstatus, hread⟩
  · cases h

/-- The measurement of a workload ended the program, after all its warmup calls or after all
its calls. -/
inductive HaltedIn (sampler : Sampler) (place : Place) (sampling : Sampling) :
    List Place → Halt → Prop
  /-- The samples would be too many. -/
  | room (h : Sampler.sampleLimit ≤ sampling.iterations) :
      HaltedIn sampler place sampling (List.replicate sampling.warmup place) .tooManySamples
  | first {e : Halt} (h : LargeFigures host sampler e) :
      HaltedIn sampler place sampling (List.replicate sampling.warmup place) e
  | last {e : Halt} (h : LargeFigures host sampler e) :
      HaltedIn sampler place sampling
        (List.replicate (sampling.warmup + sampling.iterations) place) e

section Calls

variable {places : List Place} {place : Place} {call : Watched σ (Except String Unit)}

/-- The error of a call is the message of its failure, and comes from this place. -/
abbrev From (place : Place) : Place → String → String → Prop :=
  fun p message e => p = place ∧ e = message

theorem visits_warmUp (h : Visits [place] (fun _ => True) (From place) call) (n : Nat) :
    Visits (List.replicate n place) (fun _ => True) (From place) (Sampler.warmUp call n) := by
  induction n with
  | zero => exact Visits.pure trivial
  | succ n ih =>
    refine h.bind (fun _ _ => ih) ?_
    intro p message e he s events
    exact ⟨e, s, rfl, he⟩

/-- The times of so many calls are as many. -/
theorem visits_samples (clock : Clock) (h : Visits [place] (fun _ => True) (From place) call)
    (n : Nat) :
    Visits (List.replicate n place) (fun times => times.length = n) (From place)
      (Sampler.samples (watchedHost host).toGauges clock call n) := by
  induction n with
  | zero => exact Visits.pure rfl
  | succ n ih =>
    have hnow := unseen_now host clock
    -- the readings before and after the call are unseen, so only the call itself counts
    rw [Sampler.samples_succ]
    refine hnow.visits fun before => h.bind (fun _ _ => hnow.visits fun after => ?_) ?_
    · rw [← List.append_nil (List.replicate n place)]
      refine ih.bind (fun rest hrest => Visits.pure ?_)
        fun p message e he s events => ⟨e, s, rfl, he⟩
      rw [List.length_cons, hrest]
    · intro p message e he s events
      obtain ⟨_, s', hs⟩ := hnow s events
      exact ⟨e, s', bind_apply hs, he⟩

/-- A result of a measurement is a full one, before its throughput is added. -/
theorem visits_tryRun (sampler : Sampler) (sampling : Sampling)
    (h : Visits [place] (fun _ => True) (From place) call) :
    VisitsT (List.replicate (sampling.warmup + sampling.iterations) place)
      (fun t => ∃ times delta, times.length = sampling.iterations ∧
        t = .ofSamples sampling.name sampling.warmup times delta) (From place)
      (HaltedIn host sampler place sampling)
      (sampler.tryRun (watchedHost host).toGauges sampling call) := by
  rw [← List.replicate_append_replicate]
  have hsnapshot := unseen_snapshot host sampler
  -- warmup, a snapshot, room for the samples, the timed calls, a snapshot
  refine (visits_warmUp h sampling.warmup).lift.bind (fun _ _ => ?_)
    (fun p message e he => ⟨e, rfl, he⟩) nofun
  refine .afterUnseen hsnapshot (fun world e hlook => ?_) fun _ before _ => ?_
  · rw [List.append_nil]
    exact .first (largeFigures_of_snapshot host hlook)
  refine .afterUnseen (Unseen.pure _) (fun world e hroom => ?_) fun _ _ _ => ?_
  · obtain ⟨hlimit, rfl⟩ := Sampler.reserve_eq_error_iff.mp hroom
    rw [List.append_nil]
    exact .room hlimit
  rw [← List.append_nil (List.replicate sampling.iterations place)]
  refine (visits_samples host sampler.clock h sampling.iterations).lift.bind (fun times htimes => ?_)
    (fun p message e he => ⟨e, rfl, he⟩) nofun
  refine .afterUnseen hsnapshot (fun world e hlook => ?_) fun _ after _ => ?_
  · rw [List.append_nil, List.replicate_append_replicate]
    exact .last (largeFigures_of_snapshot host hlook)
  -- the difference of two snapshots never ends the program
  obtain ⟨delta, hdelta, -⟩ := Sampler.memoryDelta_eq_ok before after
  rw [hdelta]
  exact VisitsT.pure ⟨times, delta, htimes, rfl⟩

end Calls

theorem fullTest_ofSamples {w : Workload (StateM σ)} {times : List Float}
    (delta : Option Memory.Delta) (h : times.length = w.sampling.iterations) :
    FullTest w
      (w.units.elim (TestResult.ofSamples w.sampling.name w.sampling.warmup times delta)
        fun units => Sampler.withThroughput units
        (.ofSamples w.sampling.name w.sampling.warmup times delta)) := by
  cases hunits : w.units with
  | none => exact ⟨rfl, rfl, h, h, rfl, by rw [hunits]; rfl⟩
  | some units => exact ⟨rfl, rfl, h, h, rfl, by rw [hunits]; rfl⟩

theorem visits_workload (sampler : Sampler) (place : Place) (w : Workload (StateM σ)) :
    VisitsT (workloadTurns place w) (FullTest w) (From place)
      (HaltedIn host sampler place w.sampling)
      ((watchedWorkload place w).measure (watchedHost host).toGauges sampler) := by
  -- the throughput is added without another call
  rw [← List.append_nil (workloadTurns place w)]
  refine (visits_tryRun host sampler w.sampling (visits_call place w)).bind ?_
    (fun p message e he => ⟨e, rfl, he⟩) fun _ _ => id
  rintro t ⟨times, delta, htimes, rfl⟩
  exact VisitsT.pure (fullTest_ofSamples delta htimes)

/-! ### Workloads and categories in order -/

/-- The fault of a failed call is a measurement fault of this category, under the name of
the workload at the position counted by `at`. -/
abbrev FaultOf (category : String) (place : Nat → Place) (ws : List (Workload (StateM σ))) :
    Place → String → Fault → Prop :=
  fun p message e => ∃ i w, p = place i ∧ ws[i]? = some w ∧
    e = .measurement category w.sampling.name message

/-- The measurement of one of these workloads ended the program, after all turns of the
workloads before it. -/
abbrev HaltedAmong (sampler : Sampler) (place : Nat → Place) (ws : List (Workload (StateM σ))) :
    List Place → Halt → Prop :=
  fun done e => ∃ i w last, ws[i]? = some w ∧ HaltedIn host sampler (place i) w.sampling last e ∧
    done = ((ws.take i).mapIdx fun j v => workloadTurns (place j) v).flatten ++ last

theorem visits_measureAll (sampler : Sampler) (category : String) (place : Nat → Place)
    (ws : List (Workload (StateM σ))) :
    VisitsT (ws.mapIdx fun i w => workloadTurns (place i) w).flatten
      (fun tests => List.Forall₂ FullTest ws tests) (FaultOf category place ws)
      (HaltedAmong host sampler place ws)
      (Category.measureAll (watchedHost host).toGauges sampler category
        (ws.mapIdx fun i w => watchedWorkload (place i) w)) := by
  induction ws generalizing place with
  | nil => exact VisitsT.pure .nil
  | cons w ws ih =>
    rw [List.mapIdx_cons, List.mapIdx_cons, List.flatten_cons]
    refine (visits_workload host sampler (place 0) w).bind (fun t ht => ?_) ?_ ?_
    -- the workloads after the first one are counted from one
    · rw [← List.append_nil (List.flatten _)]
      refine (ih fun i => place (i + 1)).bind (fun ts hts => VisitsT.pure (.cons ht hts)) ?_ ?_
      · rintro p message e ⟨i, v, hp, hv, he⟩
        exact ⟨e, rfl, i + 1, v, hp, hv, he⟩
      · rintro done e ⟨i, v, last, hv, hlast, rfl⟩
        refine ⟨i + 1, v, last, hv, hlast, ?_⟩
        rw [List.take_succ_cons, List.mapIdx_cons, List.flatten_cons, List.append_assoc]
    · rintro p message e ⟨hp, he⟩
      exact ⟨_, rfl, 0, w, hp, rfl, by rw [he]; rfl⟩
    · intro done e hlast
      exact ⟨0, w, done, rfl, hlast, rfl⟩

theorem visits_category (sampler : Sampler) (index : Nat) (c : Category (StateM σ)) :
    VisitsT (categoryTurns index c) (FullGroup c) (FaultOf c.name (⟨index, ·⟩) c.workloads)
      (HaltedAmong host sampler (⟨index, ·⟩) c.workloads)
      ((watchedCategory index c).measure (watchedHost host).toGauges sampler) := by
  rw [← List.append_nil (categoryTurns index c)]
  exact (visits_measureAll host sampler c.name (⟨index, ·⟩) c.workloads).bind
    (fun tests htests => VisitsT.pure ⟨rfl, htests⟩) (fun p message e he => ⟨e, rfl, he⟩)
    fun _ _ => id

end Stopwatch.Session
