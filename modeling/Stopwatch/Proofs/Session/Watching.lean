import Stopwatch.Proofs.Session.Events

/-!
# Watching a session changes nothing

A watched session does what the session does: with its events left out, a watched run has
the outcome of the run and leaves the state that the run leaves. So what the events of a
watched run tell is true of the run itself.

- `run_alone`: a run without a contest is its measurement and what follows it;
- `Watches`: an action with events is another one without, which holds of sequences if it
  holds of their parts;
- `watches_run`: it holds of whole runs, from the calls of a workload upwards.
-/

namespace Stopwatch.Session

/-! ### The parts of a run -/

section Parts

variable {m : Type → Type} [Monad m]

/-- The results up to the first failure as a success or a failure. -/
def verdict :
    List ResultGroup × Option Fault → Except (List ResultGroup × Fault) (List ResultGroup)
  | (groups, none) => .ok groups
  | (groups, some e) => .error (groups, e)

/-- One more category in front, in terms of verdicts. -/
theorem verdict_measure_cons [LawfulMonad m] (gauges : Gauges m) (sampler : Sampler)
    (c : Category m) (cs : List (Category m)) :
    verdict <$> measure gauges sampler (c :: cs) = (do
      match ← c.measure gauges sampler with
      | .error e => pure (.error ([], e))
      | .ok group =>
        match ← verdict <$> measure gauges sampler cs with
        | .error (groups, e) => pure (.error (group :: groups, e))
        | .ok groups => pure (.ok (group :: groups))) := by
  rw [measure, map_bind]
  refine bind_congr fun r => ?_
  cases r with
  | error e => simp only [map_pure, verdict]
  | ok group =>
    simp only [map_bind, map_pure, bind_map_left]
    refine bind_congr fun p => ?_
    obtain ⟨groups, _ | e⟩ := p <;> rfl

/-- The outcome once the sink has answered. -/
def answered (outcome : Outcome) : Except Fault Artifact → Outcome
  | .ok artifact => { outcome with artifact := some artifact }
  | .error e => { outcome with error := some e.message }

/-- The time in the report of a run. -/
def reportMoment (host : Host m) (settings : Settings) : m Moment :=
  match settings.moment with
  | some moment => pure moment
  | none => currentMoment host

/-- The end of a run, as soon as the time in the report is known. -/
def finishAt (session : Session m) (f : Findings) (moment : Moment) : m Outcome :=
  let report := f.report session.settings moment
  if session.settings.persist then do
    let answer ← session.sink moment.stamp report.render
      (report.results f.groups f.comparison f.pairs).render
    pure (answered (f.outcome report) answer)
  else pure (f.outcome report)

theorem finish_eq [LawfulMonad m] (host : Host m) (session : Session m) (f : Findings) :
    session.finish host f = reportMoment host session.settings >>= session.finishAt f := by
  unfold finish reportMoment
  cases session.settings.moment <;>
  · refine bind_congr fun moment => ?_
    unfold finishAt
    dsimp only
    split
    · refine bind_congr fun answer => ?_
      cases answer <;> rfl
    · rfl

/-- What follows the measurement in a session without a contest. -/
def afterMeasure (host : Host m) (session : Session m) :
    Except (List ResultGroup × Fault) (List ResultGroup) → m Outcome
  | .error (completed, e) => pure (.failed completed e)
  | .ok completed => do
    let environment ← captureEnvironment host session.settings.profile
    session.finish host (.of completed environment none)

theorem run_alone [LawfulMonad m] (host : Host m) (session : Session m)
    (alone : session.settings.contest = none) :
    session.run host = (do
      let r ← verdict <$> measure host.toGauges session.sampler session.categories
      (session.afterMeasure host r : m _)) := by
  have hcontest : session.holdContest host = pure none := by
    rw [holdContest, alone]
  unfold run
  rw [hcontest, bind_map_left]
  simp only [pure_bind]
  refine bind_congr fun p => ?_
  obtain ⟨completed, _ | e⟩ := p
  · simp only [verdict, afterMeasure, liftM_bind]
  -- after a failure nothing follows
  · simp only [verdict, afterMeasure, liftM_pure]

end Parts

/-! ### Watched actions -/

variable {σ α β : Type}

/-- Without its events the first action is the second one. -/
def Watches (act : Watched σ α) (plain : StateM σ α) : Prop :=
  ∀ s events, ((act (s, events)).1, (act (s, events)).2.1) = plain s

theorem Watches.unseen (plain : StateM σ α) : Watches (Session.unseen plain) plain :=
  fun _ _ => rfl

theorem Watches.seen (event : α → Event) (plain : StateM σ α) :
    Watches (Session.seen event plain) plain :=
  fun _ _ => rfl

theorem Watches.pure (a : α) : Watches (Pure.pure a : Watched σ α) (Pure.pure a) :=
  fun _ _ => rfl

theorem Watches.bind {act : Watched σ α} {plain : StateM σ α} {f : α → Watched σ β}
    {g : α → StateM σ β} (h : Watches act plain) (hf : ∀ a, Watches (f a) (g a)) :
    Watches (act >>= f) (plain >>= g) := by
  intro s events
  -- the plain sequence goes on from the value and the state of the watched one
  show ((f (act (s, events)).1 (act (s, events)).2).1,
      (f (act (s, events)).1 (act (s, events)).2).2.1) =
    g (plain s).1 (plain s).2
  rw [← h s events]
  exact hf _ _ _

theorem Watches.map {act : Watched σ α} {plain : StateM σ α} (h : Watches act plain)
    (f : α → β) : Watches (f <$> act) (f <$> plain) := by
  rw [map_eq_pure_bind, map_eq_pure_bind]
  exact h.bind fun a => .pure _

/-! The same of actions that may end the program. -/

theorem Watches.lift {act : Watched σ α} {plain : StateM σ α} (h : Watches act plain) :
    Watches (liftM act : ExceptT Halt (Watched σ) α).run
      (liftM plain : ExceptT Halt (StateM σ) α).run := by
  intro s events
  show (Except.ok (act (s, events)).1, (act (s, events)).2.1) = (Except.ok (plain s).1, (plain s).2)
  rw [← h s events]

theorem Watches.bindT {act : ExceptT Halt (Watched σ) α} {plain : ExceptT Halt (StateM σ) α}
    {f : α → ExceptT Halt (Watched σ) β} {g : α → ExceptT Halt (StateM σ) β}
    (h : Watches act.run plain.run) (hf : ∀ a, Watches (f a).run (g a).run) :
    Watches (act >>= f).run (plain >>= g).run := by
  rw [ExceptT.run_bind, ExceptT.run_bind]
  refine h.bind fun answer => ?_
  cases answer with
  | ok a => exact hf a
  | error e => exact .pure _

theorem Watches.mapT {act : ExceptT Halt (Watched σ) α} {plain : ExceptT Halt (StateM σ) α}
    (h : Watches act.run plain.run) (f : α → β) : Watches (f <$> act).run (f <$> plain).run := by
  rw [map_eq_pure_bind, map_eq_pure_bind]
  exact h.bindT fun a => .pure _

/-! ### The measurement of a workload -/

variable (host : Host (StateM σ))

theorem watches_now (clock : Clock) :
    Watches (clock.now (watchedHost host).toGauges) (clock.now host.toGauges) := by
  unfold Clock.now
  cases clock.source with
  | monotonic => exact (Watches.unseen host.monotonic).bind fun _ => .pure _
  | wall => exact (Watches.unseen host.wall).bind fun _ => .pure _

theorem watches_snapshot (sampler : Sampler) :
    Watches (sampler.snapshot? (watchedHost host).toGauges).run
      (sampler.snapshot? host.toGauges).run := by
  unfold Sampler.snapshot?
  split
  · exact (Watches.unseen host.status).lift.bindT fun _ => .pure _
  · exact .pure _

section Calls

variable {call : Watched σ (Except String Unit)} {plain : StateM σ (Except String Unit)}

theorem watches_warmUp (h : Watches call plain) (n : Nat) :
    Watches (Sampler.warmUp call n) (Sampler.warmUp plain n) := by
  induction n with
  | zero => exact .pure _
  | succ n ih =>
    refine h.bind fun outcome => ?_
    cases outcome with
    | error e => exact .pure _
    | ok _ => exact ih

theorem watches_samples (clock : Clock) (h : Watches call plain) (n : Nat) :
    Watches (Sampler.samples (watchedHost host).toGauges clock call n)
      (Sampler.samples host.toGauges clock plain n) := by
  induction n with
  | zero => exact .pure _
  | succ n ih =>
    have hnow := watches_now host clock
    have htime : Watches (Sampler.time (watchedHost host).toGauges clock call)
        (Sampler.time host.toGauges clock plain) :=
      hnow.bind fun _ => h.bind fun _ => hnow.bind fun _ => .pure _
    refine htime.bind fun ⟨outcome, elapsed⟩ => ?_
    cases outcome with
    | error e => exact .pure _
    | ok _ =>
      refine ih.bind fun rest => ?_
      cases rest with
      | error e => exact .pure _
      | ok rest => exact .pure _

theorem watches_tryRun (sampler : Sampler) (sampling : Sampling) (h : Watches call plain) :
    Watches (sampler.tryRun (watchedHost host).toGauges sampling call).run
      (sampler.tryRun host.toGauges sampling plain).run := by
  have hsnapshot := watches_snapshot host sampler
  refine (watches_warmUp h sampling.warmup).lift.bindT fun outcome => ?_
  cases outcome with
  | error e => exact .pure _
  | ok _ =>
    refine hsnapshot.bindT fun before => .bindT (.pure _) fun _ => ?_
    refine (watches_samples host sampler.clock h sampling.iterations).lift.bindT fun times => ?_
    cases times with
    | error e => exact .pure _
    | ok times => exact hsnapshot.bindT fun after => .bindT (.pure _) fun _ => .pure _

end Calls

theorem watches_workload (sampler : Sampler) (place : Place) (w : Workload (StateM σ)) :
    Watches ((watchedWorkload place w).measure (watchedHost host).toGauges sampler).run
      (w.measure host.toGauges sampler).run := by
  refine (watches_tryRun host sampler w.sampling (.seen (.call place) w.call)).bindT fun t => ?_
  cases t with
  | error e => exact .pure _
  | ok t => exact .pure _

/-! ### Whole runs -/

theorem watches_measureAll (sampler : Sampler) (category : String) (place : Nat → Place)
    (ws : List (Workload (StateM σ))) :
    Watches
      (Category.measureAll (watchedHost host).toGauges sampler category
        (ws.mapIdx fun i w => watchedWorkload (place i) w)).run
      (Category.measureAll host.toGauges sampler category ws).run := by
  induction ws generalizing place with
  | nil => exact .pure _
  | cons w ws ih =>
    rw [List.mapIdx_cons]
    refine (watches_workload host sampler (place 0) w).bindT fun t => ?_
    cases t with
    | error e => exact .pure _
    | ok t =>
      refine (ih fun i => place (i + 1)).bindT fun ts => ?_
      cases ts with
      | error e => exact .pure _
      | ok ts => exact .pure _

theorem watches_category (sampler : Sampler) (index : Nat) (c : Category (StateM σ)) :
    Watches ((watchedCategory index c).measure (watchedHost host).toGauges sampler).run
      (c.measure host.toGauges sampler).run := by
  refine (watches_measureAll host sampler c.name (⟨index, ·⟩) c.workloads).bindT fun tests => ?_
  cases tests with
  | error e => exact .pure _
  | ok tests => exact .pure _

theorem watches_measure (sampler : Sampler) (index : Nat → Nat)
    (cs : List (Category (StateM σ))) :
    Watches
      (measure (watchedHost host).toGauges sampler
        (cs.mapIdx fun i c => watchedCategory (index i) c)).run
      (measure host.toGauges sampler cs).run := by
  induction cs generalizing index with
  | nil => exact .pure _
  | cons c cs ih =>
    rw [List.mapIdx_cons]
    refine (watches_category host sampler (index 0) c).bindT fun group => ?_
    cases group with
    | error e => exact .pure _
    | ok group => exact (ih fun i => index (i + 1)).bindT fun _ => .pure _

theorem watches_environment (profile : Profile) :
    Watches (captureEnvironment (watchedHost host) profile) (captureEnvironment host profile) :=
  (Watches.unseen _).bind fun _ => (Watches.unseen _).bind fun _ =>
    (Watches.unseen _).bind fun _ => .pure _

theorem watches_finish (session : Session (StateM σ)) (f : Findings) :
    Watches (session.watched.finish (watchedHost host) f) (session.finish host f) := by
  rw [finish_eq, finish_eq]
  have hmoment : Watches (reportMoment (watchedHost host) session.settings)
      (reportMoment host session.settings) := by
    unfold reportMoment
    split
    · exact .pure _
    · exact (Watches.unseen _).bind fun _ => .pure _
  refine hmoment.bind fun moment => ?_
  unfold finishAt
  show Watches (if session.settings.persist then _ else _) _
  dsimp only
  split
  · exact (Watches.seen _ _).bind fun _ => .pure _
  · exact .pure _

/-- **Watching changes nothing**: without its events, a watched run is the run. -/
theorem watches_run (session : Session (StateM σ)) (alone : session.settings.contest = none) :
    Watches (session.watched.run (watchedHost host)).run (session.run host).run := by
  rw [run_alone _ session.watched alone, run_alone host session alone]
  have hmeasure := (watches_measure host session.sampler id session.categories).mapT verdict
  refine hmeasure.bindT fun completed => .lift ?_
  cases completed with
  | error e => exact .pure _
  | ok completed =>
    exact (watches_environment host session.settings.profile).bind fun environment =>
      watches_finish host session _

end Stopwatch.Session
