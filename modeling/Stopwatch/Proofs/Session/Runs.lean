import Stopwatch.Proofs.Session.Measurement
import Stopwatch.Proofs.Session.Watching

/-!
# What the runs of a session do

A session without a contest is driven by a list of operations: register a category, or
run. Each run calls the workloads registered so far, in order and each so many times in a
row, up to the first call that fails. `Stopped` says what is left after a failure and
`Finished` what is left without one. `Halted` says where a run ends the program instead, which
takes a count of samples or a memory figure that is too large. The main statement is that
every run in every list of operations is one of these, whatever the workloads, the sink and
the clocks keep in the state and however they change it.
-/

namespace Stopwatch.Session

variable {σ : Type}

/-! ### Operations -/

inductive Operation (σ : Type) where
  | register (category : Category (StateM σ))
  | run

namespace Operation

/-- The categories that some operations register. -/
def registered : List (Operation σ) → List (Category (StateM σ))
  | [] => []
  | register c :: rest => c :: registered rest
  | run :: rest => registered rest

/-- How many runs there are among some operations. -/
def runs : List (Operation σ) → Nat
  | [] => 0
  | register _ :: rest => runs rest
  | run :: rest => runs rest + 1

end Operation

/-- One run, with the events of this run alone, which the watched session tells. -/
def watch (host : Host (StateM σ)) (session : Session (StateM σ)) :
    StateM σ (Except Halt Outcome × List Event) := fun s =>
  let (outcome, s') := session.run host s
  ((outcome, (session.watched.run (watchedHost host) (s, [])).2.2), s')

/-- Carries out some operations, with the outcome and the events of each run. A run that
ends the program is listed as well, and the later ones are those of a caller who goes on. -/
def play (host : Host (StateM σ)) :
    List (Operation σ) → Session (StateM σ) → StateM σ (List (Except Halt Outcome × List Event))
  | [], _ => pure []
  | .register c :: rest, session => play host rest (session.register c)
  | .run :: rest, session => do
    let r ← watch host session
    let rs ← play host rest session
    pure (r :: rs)

/-! ### What a run leaves -/

/-- A run that ended with the failed call of a workload, after the calls `done`. -/
structure Stopped (categories : List (Category (StateM σ))) (outcome : Outcome)
    (events : List Event) (done : List Place) (place : Place) (message : String) : Prop where
  /-- The calls are those of a run without failures, up to this one. -/
  cut : ∃ rest, turns categories = done ++ place :: rest
  /-- All calls before this one succeeded, and after it there is neither a call nor a use
  of the sink. -/
  events : events = passed done ++ [.call place (.error message)]
  failure : outcome.success = false
  artifact : outcome.artifact = none
  /-- The error names the category and the test. -/
  error : ∃ c w, categories[place.category]? = some c ∧ c.workloads[place.workload]? = some w ∧
    outcome.error =
      some ("workload '" ++ w.sampling.name ++ "' in category '" ++ c.name ++ "' failed: " ++ message)
  /-- The categories before that of the failed workload are complete, and there are no
  others. -/
  completed : List.Forall₂ FullGroup (categories.take place.category) outcome.completed

/-- A run in which all calls succeeded. -/
structure Finished (settings : Settings) (categories : List (Category (StateM σ)))
    (outcome : Outcome) (events : List Event) : Prop where
  completed : List.Forall₂ FullGroup categories outcome.completed
  /-- Without persistence the sink is left alone. -/
  unkept : settings.persist = false →
    events = passed (turns categories) ∧ outcome.success = true ∧ outcome.error = none ∧
      outcome.artifact = none
  /-- With it the sink is used once, after all calls, for the page and the document on all
  categories, and its answer decides on the success. -/
  kept : settings.persist = true → ∃ moment environment answer,
    let report :=
      Findings.report settings moment ⟨outcome.completed, none, none, none, environment⟩
    events = passed (turns categories) ++
        [.keep moment.stamp report.render
          (report.results outcome.completed none none).render answer] ∧
      (∀ artifact, answer = .ok artifact →
        outcome.success = true ∧ outcome.error = none ∧ outcome.artifact = some artifact) ∧
      (∀ e, answer = .error e →
        outcome.success = false ∧ outcome.error = some e.message ∧ outcome.artifact = none)

/-- A run that ended the program while it measured a workload, before the timed calls or after
them: there is no outcome, and the sink is not used. -/
structure Halted (host : Host (StateM σ)) (sampler : Sampler)
    (categories : List (Category (StateM σ))) (cause : Halt) (events : List Event) : Prop where
  /-- No call failed, and the calls are the first ones of a run without failures. -/
  cut : ∃ done rest, turns categories = done ++ rest ∧ events = passed done
  /-- They are those of the categories before that of the workload, those of the workloads
  before it in its category, and the first or all of its own. -/
  place : ∃ k i c w last, categories[k]? = some c ∧ c.workloads[i]? = some w ∧
    HaltedIn host sampler ⟨k, i⟩ w.sampling last cause ∧
    events = passed (turns (categories.take k) ++
      categoryTurns k { c with workloads := c.workloads.take i } ++ last)

/-! ### The categories of a session -/

variable (host : Host (StateM σ))

/-- The measurement of some categories, `index` being their positions: a failure comes
with the results of the categories before that of the failed workload. -/
theorem visits_measure (sampler : Sampler) (index : Nat → Nat)
    (cs : List (Category (StateM σ))) :
    VisitsT (cs.mapIdx fun i c => categoryTurns (index i) c).flatten
      (fun groups => List.Forall₂ FullGroup cs groups)
      (fun p message e => ∃ k c w, p.category = index k ∧ cs[k]? = some c ∧
        c.workloads[p.workload]? = some w ∧ e.2 = .measurement c.name w.sampling.name message ∧
        List.Forall₂ FullGroup (cs.take k) e.1)
      (fun done e => ∃ k c last, cs[k]? = some c ∧
        HaltedAmong host sampler (⟨index k, ·⟩) c.workloads last e ∧
        done = ((cs.take k).mapIdx fun i c => categoryTurns (index i) c).flatten ++ last)
      (verdict <$> measure (watchedHost host).toGauges sampler
        (cs.mapIdx fun i c => watchedCategory (index i) c)) := by
  induction cs generalizing index with
  | nil => exact VisitsT.pure .nil
  | cons c cs ih =>
    rw [List.mapIdx_cons, List.mapIdx_cons, List.flatten_cons, verdict_measure_cons]
    refine (visits_category host sampler (index 0) c).bind (fun g hg => ?_) ?_ ?_
    -- a failure further on keeps the results of this category
    · rw [← List.append_nil (List.flatten _)]
      refine (ih fun i => index (i + 1)).bind (fun gs hgs => VisitsT.pure (.cons hg hgs)) ?_ ?_
      · rintro p message ⟨gs, e⟩ ⟨k, d, w, hp, hd, hw, he, hgs⟩
        exact ⟨_, rfl, k + 1, d, w, hp, hd, hw, he, .cons hg hgs⟩
      · rintro done e ⟨k, d, last, hd, hlast, rfl⟩
        refine ⟨k + 1, d, last, hd, hlast, ?_⟩
        rw [List.take_succ_cons, List.mapIdx_cons, List.flatten_cons, List.append_assoc]
    -- a failure in this category keeps nothing of it
    · rintro p message e ⟨i, w, hp, hw, he⟩
      exact ⟨_, rfl, 0, c, w, by rw [hp], rfl, by rw [hp]; exact hw, he, .nil⟩
    · intro done e hlast
      exact ⟨0, c, done, rfl, hlast, rfl⟩

/-! ### The end of a run -/

theorem unseen_environment (profile : Profile) :
    Unseen (captureEnvironment (watchedHost host) profile) :=
  (Unseen.unseen _).bind fun _ => (Unseen.unseen _).bind fun _ =>
    (Unseen.unseen _).bind fun _ => .pure _

/-- The end of a run uses the sink once or not at all. -/
theorem finish_watched (session : Session (StateM σ)) (f : Findings) (s : σ)
    (events : List Event) :
    ∃ moment s',
      let report := f.report session.settings moment
      if session.settings.persist then ∃ answer,
        session.watched.finish (watchedHost host) f (s, events) =
          (answered (f.outcome report) answer, s', events ++
            [.keep moment.stamp report.render
              (report.results f.groups f.comparison f.pairs).render answer])
      else session.watched.finish (watchedHost host) f (s, events) =
        (f.outcome report, s', events) := by
  have hmoment : Unseen (reportMoment (watchedHost host) session.settings) := by
    unfold reportMoment
    split
    · exact .pure _
    · exact (Unseen.unseen _).bind fun _ => .pure _
  obtain ⟨moment, s₁, h₁⟩ := hmoment s events
  have hrun : session.watched.finish (watchedHost host) f (s, events) =
      session.watched.finishAt f moment (s₁, events) := by
    rw [finish_eq]
    exact bind_apply h₁
  by_cases hpersist : session.settings.persist
  · let report := f.report session.settings moment
    let use := session.sink moment.stamp report.render
      (report.results f.groups f.comparison f.pairs).render s₁
    refine ⟨moment, use.2, ?_⟩
    dsimp only
    rw [if_pos hpersist]
    refine ⟨use.1, ?_⟩
    rw [hrun, finishAt, if_pos (show session.watched.settings.persist = true from hpersist)]
    rfl
  · refine ⟨moment, s₁, ?_⟩
    dsimp only
    rw [if_neg hpersist, hrun, finishAt,
      if_neg (show ¬session.watched.settings.persist = true from hpersist)]
    rfl

/-- The end of a run in which no call failed. -/
theorem finished_of_measured (session : Session (StateM σ)) {completed : List ResultGroup}
    (hfull : List.Forall₂ FullGroup session.categories completed) (s : σ) :
    ∃ outcome events s', session.watched.afterMeasure (watchedHost host) (.ok completed)
        (s, passed (turns session.categories)) = (outcome, s', events) ∧
      Finished session.settings session.categories outcome events := by
  obtain ⟨environment, s₁, h₁⟩ :=
    unseen_environment host session.settings.profile s (passed (turns session.categories))
  obtain ⟨moment, s₂, h₂⟩ := finish_watched host session
    (.of completed environment none) s₁ (passed (turns session.categories))
  dsimp only at h₂
  by_cases hpersist : session.settings.persist
  · rw [if_pos hpersist] at h₂
    obtain ⟨answer, h₂⟩ := h₂
    refine ⟨_, _, s₂, (bind_apply h₁).trans h₂, ?_⟩
    refine { completed := ?_, unkept := fun h => ?_
             kept := fun _ => ⟨moment, environment, answer, ?_⟩ }
    · cases answer <;> exact hfull
    · rw [hpersist] at h
      cases h
    · cases answer with
      | ok artifact => exact ⟨rfl, fun _ h => by cases h; exact ⟨rfl, rfl, rfl⟩, nofun⟩
      | error e => exact ⟨rfl, nofun, fun _ h => by cases h; exact ⟨rfl, rfl, rfl⟩⟩
  · rw [if_neg hpersist] at h₂
    refine ⟨_, _, s₂, (bind_apply h₁).trans h₂, ?_⟩
    refine { completed := hfull, unkept := fun _ => ⟨rfl, rfl, rfl, rfl⟩, kept := fun h => ?_ }
    exact absurd h hpersist

/-! ### Whole runs -/

/-- A run is what the watched session shows of it. -/
theorem watch_eq (session : Session (StateM σ)) (alone : session.settings.contest = none)
    {s s' : σ} {outcome : Except Halt Outcome} {events : List Event}
    (h : (session.watched.run (watchedHost host)).run (s, []) = (outcome, s', events)) :
    watch host session s = ((outcome, events), s') := by
  have hrun : (outcome, s') = session.run host s := by
    refine Eq.trans ?_ (watches_run host session alone s [])
    show _ = (((session.watched.run (watchedHost host)).run (s, [])).1, _)
    rw [h]
  rw [ExceptT.run] at h
  rw [watch, ← hrun, h]

/-- What one run of a session is, by what it has come to. -/
def Ends (host : Host (StateM σ)) (settings : Settings) (sampler : Sampler)
    (categories : List (Category (StateM σ))) : Except Halt Outcome → List Event → Prop
  | .ok outcome, events =>
    (∃ done place message, Stopped categories outcome events done place message) ∨
      Finished settings categories outcome events
  | .error e, events => Halted host sampler categories e events

/-- **One run**: it is stopped by a failed call, finished or the end of the program, and its
events tell which. -/
theorem watch_run (session : Session (StateM σ)) (alone : session.settings.contest = none)
    (s : σ) :
    ∃ answer events s', watch host session s = ((answer, events), s') ∧
      Ends host session.settings session.sampler session.categories answer events := by
  have hrun := run_alone (watchedHost host) session.watched alone
  rcases visits_measure host session.sampler id session.categories s [] with
    ⟨completed, s₁, h₁, hfull⟩ | ⟨done, place, rest, message, q, s₁, hcut, h₁, hbad⟩ |
    ⟨done, rest, e, s₁, hcut, h₁, k, c, last, hc, ⟨i, w, own, hw, hown, rfl⟩, rfl⟩
  · obtain ⟨outcome, events, s₂, h₂, hfinished⟩ := finished_of_measured host session hfull s₁
    refine ⟨.ok outcome, events, s₂, watch_eq host session alone ?_, .inr hfinished⟩
    rw [hrun]
    refine (bindT_apply_ok h₁).trans ?_
    show (Except.ok _, _) = _
    rw [List.nil_append]
    exact congrArg (fun p => (Except.ok p.1, p.2)) h₂
  · obtain ⟨k, c, w, hp, hc, hw, he, hfull⟩ := hbad
    have hk : place.category = k := hp
    have hall : (session.watched.run (watchedHost host)).run (s, []) =
        (.ok (.failed q.1 q.2), s₁, passed done ++ [.call place (.error message)]) := by
      rw [hrun]
      exact bindT_apply_ok h₁
    refine ⟨.ok _, _, s₁, watch_eq host session alone hall, .inl ⟨done, place, message, ?_⟩⟩
    refine { cut := ⟨rest, hcut⟩, events := rfl, failure := rfl, artifact := rfl,
             error := ⟨c, w, ?_, hw, ?_⟩, completed := ?_ }
    · rw [hk]
      exact hc
    · exact congrArg (fun e => some e.message) he
    · rw [hk]
      exact hfull
  · refine ⟨.error e, _, s₁, watch_eq host session alone ?_, ⟨⟨_, rest, hcut, rfl⟩, ?_⟩⟩
    · rw [hrun]
      exact bindT_apply_error h₁
    · refine ⟨k, i, c, w, own, hc, hw, hown, congrArg passed ?_⟩
      exact (List.append_assoc _ _ _).symm

/-- One run in front of other operations, which start from the state that it leaves. -/
theorem play_run (session : Session (StateM σ)) (rest : List (Operation σ)) (s : σ) :
    (play host (.run :: rest) session s).1 =
      (watch host session s).1 :: (play host rest session (watch host session s).2).1 := rfl

/-- **All runs**: in every list of operations, each run calls the workloads of the
categories registered before it, in order and each so many times in a row, up to the first
call that fails. After a failure only the categories before it are kept, and the sink is
not used; without one everything is kept, and the sink is used once if the settings say
so. A run ends the program only at a workload with too many samples or at memory figures
that are too large. -/
theorem play_stopped_or_finished (host : Host (StateM σ)) (session : Session (StateM σ))
    (alone : session.settings.contest = none) (before after : List (Operation σ)) (s : σ) :
    ∃ answer events,
      (play host (before ++ .run :: after) session s).1[Operation.runs before]? =
          some (answer, events) ∧
        Ends host session.settings session.sampler
          (session.categories ++ Operation.registered before) answer events := by
  -- each operation changes the session or the state that the later ones start from
  induction before generalizing session s with
  | nil =>
    obtain ⟨answer, events, s', hwatch, hrun⟩ := watch_run host session alone s
    refine ⟨answer, events, ?_, ?_⟩
    · rw [List.nil_append, play_run, hwatch]
      rfl
    · rw [Operation.registered, List.append_nil]
      exact hrun
  | cons operation before ih =>
    cases operation with
    | register c =>
      obtain ⟨answer, events, hplay, hrun⟩ := ih (session.register c) alone s
      refine ⟨answer, events, hplay, ?_⟩
      have hcategories : session.categories ++ Operation.registered (.register c :: before) =
          (session.register c).categories ++ Operation.registered before := by
        rw [Operation.registered, register, List.append_assoc, List.singleton_append]
      rw [hcategories]
      exact hrun
    | run =>
      obtain ⟨answer, events, hplay, hrun⟩ := ih session alone (watch host session s).2
      refine ⟨answer, events, ?_, hrun⟩
      rw [List.cons_append, play_run, Operation.runs, List.getElem?_cons_succ]
      exact hplay

/-! ### A session that fails in its second run -/

/-- A host without files, processes and time. -/
def idleHost : Host (StateM Nat) where
  monotonic := pure 0
  wall := pure 0
  status := pure none
  consume _ := pure ()
  machine := pure default
  environment _ := pure none
  read _ := pure (.error .notText)
  write _ _ := pure (.error .notText)
  remove _ := pure (.error .notText)
  createDirectories _ := pure (.error .notText)
  isFile _ := pure false
  isDirectory _ := pure false
  canonical? _ := pure none
  walk _ := pure []
  execute _ := pure (.error (.notStarted .notText))

/-- A workload with one warmup and two timed calls that fails as soon as the state has
counted so many calls. -/
def failingAfter (limit : Nat) (name : String) : Workload (StateM Nat) where
  sampling := ⟨name, 2, 1⟩
  units := none
  call := fun calls => (if calls < limit then .ok () else .error "worn out", calls + 1)

/-- A session on the wall clock whose sink refuses everything. A run makes six calls, so
the second call of the second run fails. -/
def wearySession : Session (StateM Nat) where
  settings := .standard
  sampler := ⟨⟨.wall, 0, 0.0⟩, .minimal⟩
  sink _ _ _ := pure (.error (.config "sink" "refused"))
  categories := [⟨"first", [failingAfter 7 "a", failingAfter 7 "b"]⟩]

theorem play_stopped_or_finished_weary :
    wearySession.settings.contest = none ∧ ∃ answer events,
      (play idleHost ([.run, .register ⟨"second", []⟩] ++ .run :: []) wearySession 0).1[1]? =
          some (answer, events) ∧
        Ends idleHost wearySession.settings wearySession.sampler
          (wearySession.categories ++ [⟨"second", []⟩]) answer events :=
  ⟨rfl, play_stopped_or_finished idleHost wearySession rfl
    [.run, .register ⟨"second", []⟩] [] 0⟩

/-- A session with one workload that fails at its first call, and has more samples to take than a list
can hold. -/
def endlessSession : Session (StateM Nat) where
  settings := .standard
  sampler := ⟨⟨.wall, 0, 0.0⟩, .minimal⟩
  sink _ _ _ := pure (.error (.config "sink" "refused"))
  categories := [⟨"A", [⟨⟨"x", 1152921504606846976, 0⟩, none, fun n => (.error "boom", n + 1)⟩]⟩]

/-- **But a workload with so many samples is not called**, so the run has no outcome and no error that
names it. -/
theorem endless_run_halts :
    (play idleHost [.run] endlessSession 0) = ([(.error .tooManySamples, [])], 0) :=
  rfl

end Stopwatch.Session
