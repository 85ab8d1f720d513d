import Stopwatch.Proofs.Session.Contest
import Stopwatch.Proofs.Session.Runs

/-!
# The two halves of a session

A session measures its categories and then may hold a contest. Whatever the engines do in the contest, the
session is as successful as it would have been without, and has the same results of its categories, with at
most one more group for the contest. Only a limit beyond the clock takes that from it.

- `alone`: the session without its contest;
- `run_of_measured`: a run is its measurement, its contest and what follows;
- `Refusal`: a sink whose answer does not depend on what it is given;
- `Halves`, `run_halves`: the run of a session beside the run without its contest.
-/

namespace Stopwatch.Session

variable {σ : Type} {host : Host (StateM σ)} {session : Session (StateM σ)} {s s₁ s₂ : σ}

/-- The session without its contest. -/
def alone (session : Session (StateM σ)) : Session (StateM σ) :=
  { session with settings := { session.settings with contest := none } }

/-! ### A run in parts -/

/-- What follows the measurement and the contest. -/
def conclude (host : Host (StateM σ)) (session : Session (StateM σ)) (groups : List ResultGroup)
    (shown : Option Contest.Result) : StateM σ Outcome := do
  let environment ← captureEnvironment host session.settings.profile
  session.finish host (.of groups environment shown)

theorem run_of_failed {groups : List ResultGroup} {e : Fault}
    (hmeasure : (measure host.toGauges session.sampler session.categories).run s =
        (.ok (groups, some e), s₁)) :
    (session.run host).run s = (.ok (.failed groups e), s₁) := by
  unfold run
  rw [ExceptT.run_bind, run_bind_of_eq hmeasure]
  rfl

/-- If the measurement ends the program, nothing follows. -/
theorem run_of_unmeasured {h : Halt}
    (hmeasure : (measure host.toGauges session.sampler session.categories).run s = (.error h, s₁)) :
    (session.run host).run s = (.error h, s₁) := by
  unfold run
  rw [ExceptT.run_bind, run_bind_of_eq hmeasure]
  rfl

theorem run_of_halted {groups : List ResultGroup} {h : Halt}
    (hmeasure : (measure host.toGauges session.sampler session.categories).run s =
        (.ok (groups, none), s₁))
    (hcontest : (session.holdContest host).run s₁ = (.error h, s₂)) :
    (session.run host).run s = (.error h, s₂) := by
  unfold run
  rw [ExceptT.run_bind, run_bind_of_eq hmeasure]
  dsimp only
  rw [ExceptT.run_bind, run_bind_of_eq hcontest]
  rfl

theorem run_of_measured {groups : List ResultGroup} {shown : Option Contest.Result}
    (hmeasure : (measure host.toGauges session.sampler session.categories).run s =
        (.ok (groups, none), s₁))
    (hcontest : (session.holdContest host).run s₁ = (.ok shown, s₂)) :
    (session.run host).run s =
      (.ok (session.conclude host groups shown s₂).1, (session.conclude host groups shown s₂).2) := by
  unfold run
  rw [ExceptT.run_bind, run_bind_of_eq hmeasure]
  dsimp only
  rw [ExceptT.run_bind, run_bind_of_eq hcontest]
  rfl

/-! ### What a run concludes with -/

/-- Why a sink refuses artifacts, if it does. -/
def refused? : Except Fault Artifact → Option Fault
  | .ok _ => none
  | .error e => some e

/-- Whether a sink refuses artifacts depends on the stamp and on the state, but on no text. -/
def RefusesBy (sink : Sink (StateM σ)) (refusal : σ → String → Option Fault) : Prop :=
  ∀ stamp page document s, refused? (sink stamp page document s).1 = refusal s stamp

theorem answered_error (o : Outcome) (ho : o.error = none) (answer : Except Fault Artifact) :
    (answered o answer).error = (refused? answer).map Fault.message := by
  cases answer with
  | error e => rfl
  | ok artifact => exact ho

@[simp] theorem answered_completed (o : Outcome) (answer : Except Fault Artifact) :
    (answered o answer).completed = o.completed := by
  cases answer <;> rfl

@[simp] theorem answered_comparison (o : Outcome) (answer : Except Fault Artifact) :
    (answered o answer).comparison = o.comparison := by
  cases answer <;> rfl

/-- A part of the state that looking leaves alone is the same after an action that only looks. -/
theorem view_of_looking {α γ : Type} {view : σ → γ} {act : StateM σ α} {s s' : σ} {a : α}
    (h : ∀ v, Alike (fun s t => s = t ∧ view s = v) act act) (hact : act s = (a, s')) :
    view s' = view s := by
  have hview := (h (view s) s s ⟨rfl, rfl⟩).2.2
  rwa [hact] at hview

variable {refusal : σ → String → Option Fault}

theorem finishAt_outcome (hsink : RefusesBy session.sink refusal) (f : Findings) (moment : Moment) (s : σ) :
    (session.finishAt f moment s).1.error =
        (if session.settings.persist then (refusal s moment.stamp).map Fault.message else none) ∧
      (session.finishAt f moment s).1.completed = f.groups ∧
      (session.finishAt f moment s).1.comparison = f.comparison := by
  unfold finishAt
  split
  · generalize f.report session.settings moment = report
    generalize (report.results f.groups f.comparison f.pairs).render = document
    obtain ⟨answer, s', hanswer⟩ : ∃ answer s',
      session.sink moment.stamp report.render document s = (answer, s') := ⟨_, _, rfl⟩
    have hrefused := hsink moment.stamp report.render document s
    rw [hanswer] at hrefused
    rw [run_bind_of_eq hanswer]
    exact ⟨(answered_error _ rfl answer).trans (congrArg _ hrefused), answered_completed _ _, answered_comparison _ _⟩
  · exact ⟨rfl, rfl, rfl⟩

theorem conclude_outcome (hlook : host.LooksOnly refusal) (hsink : RefusesBy session.sink refusal)
    (groups : List ResultGroup) (shown : Option Contest.Result) (s : σ) :
    ∃ moment : Moment, (∀ fixed ∈ session.settings.moment, moment = fixed) ∧
      (session.conclude host groups shown s).1.error =
        (if session.settings.persist then (refusal s moment.stamp).map Fault.message else none) ∧
      (session.conclude host groups shown s).1.completed =
        groups ++ (shown.bind Contest.Result.candidate).toList ∧
      (session.conclude host groups shown s).1.comparison = shown.map fun r =>
        .of (groups ++ r.candidate.toList) (some r.baseline) := by
  obtain ⟨environment, s₁, henvironment⟩ : ∃ environment s₁,
    captureEnvironment host session.settings.profile s = (environment, s₁) := ⟨_, _, rfl⟩
  obtain ⟨moment, s₂, hmoment⟩ : ∃ moment s₂,
    reportMoment host session.settings s₁ = (moment, s₂) := ⟨_, _, rfl⟩
  have hview₁ : refusal s₁ = refusal s :=
    view_of_looking (fun v => (hlook v).captureEnvironment session.settings.profile) henvironment
  have hview₂ : refusal s₂ = refusal s₁ := by
    refine view_of_looking (fun v => ?_) hmoment
    unfold reportMoment
    cases session.settings.moment with
    | some fixed => exact .pure _
    | none => exact (hlook v).currentMoment
  have hfixed : ∀ fixed ∈ session.settings.moment, moment = fixed := by
    intro fixed hfixed
    unfold reportMoment at hmoment
    rw [Option.mem_def.mp hfixed] at hmoment
    exact (congrArg Prod.fst hmoment).symm
  have hconclude : session.conclude host groups shown s =
      session.finishAt (.of groups environment shown) moment s₂ := by
    unfold conclude
    rw [run_bind_of_eq henvironment, finish_eq, run_bind_of_eq hmoment]
  obtain ⟨herror, hcompleted, hcomparison⟩ :=
    finishAt_outcome hsink (.of groups environment shown) moment s₂
  rw [hview₂, hview₁] at herror
  refine ⟨moment, hfixed, by rw [hconclude, herror], ?_, ?_⟩
  · rw [hconclude, hcompleted]
    cases shown with
    | none => exact (List.append_nil groups).symm
    | some r => rfl
  · rw [hconclude, hcomparison]
    cases shown <;> rfl

/-! ### With the contest and without it -/

/-- The outcome of a session with a contest beside its outcome without. -/
inductive Halves (host : Host (StateM σ)) (session : Session (StateM σ)) (contest : Contest) (s : σ)
    (plain outcome : Outcome) : Prop
  /-- A workload failed, and there was no contest. -/
  | failed {groups : List ResultGroup} {e : Fault} {s₁ : σ}
      (hmeasure : (measure host.toGauges session.sampler session.categories).run s =
        (.ok (groups, some e), s₁))
      (hsame : outcome = plain)
  /-- The contest was skipped. -/
  | skipped {groups : List ResultGroup} {s₁ : σ}
      (hmeasure : (measure host.toGauges session.sampler session.categories).run s =
        (.ok (groups, none), s₁))
      (hskipped : ¬contest.IsHeld host s₁) (hplain : plain.completed = groups)
      (hcompleted : outcome.completed = plain.completed) (hcomparison : outcome.comparison = none)
  /-- The contest was held. The results are compared with those that the last successful baseline run of each
  file reported, and with the timings of the baseline if there is a candidate. -/
  | held {groups : List ResultGroup} {s₁ : σ} {pairs : List RunPair} {deeds : List Deed}
      {reports : List (List ResultGroup)}
      (hmeasure : (measure host.toGauges session.sampler session.categories).run s =
        (.ok (groups, none), s₁))
      (hheld : contest.IsHeld host s₁) (hran : contest.Ran host pairs deeds)
      (hreports : List.Forall₂ LastReport pairs reports) (hplain : plain.completed = groups)
      (hcompleted : outcome.completed = plain.completed ++
        if contest.candidate.isSome then [⟨"Process Runs", pairs.filterMap RunPair.candidateResult?⟩] else [])
      (hcomparison : outcome.comparison = some (.of outcome.completed (some (reports.flatten ++
        if contest.candidate.isSome then [⟨"Process Runs", pairs.filterMap RunPair.baselineResult?⟩] else []))))

theorem forall₂_reported (pairs : List RunPair) :
    List.Forall₂ LastReport pairs (pairs.map Contest.reported) := by
  induction pairs with
  | nil => exact .nil
  | cons p pairs ih => exact .cons (lastReport_reported p) ih

theorem halves_of_answer {contest : Contest} {groups : List ResultGroup} {shown : Option Contest.Result}
    {plain outcome : Outcome}
    (hmeasure : (measure host.toGauges session.sampler session.categories).run s =
        (.ok (groups, none), s₁))
    (hanswer : contest.Answer host s₁ (.ok shown)) (hplain : plain.completed = groups)
    (hcompleted : outcome.completed = groups ++ (shown.bind Contest.Result.candidate).toList)
    (hcomparison : outcome.comparison = shown.map fun r =>
      .of (groups ++ r.candidate.toList) (some r.baseline)) :
    Halves host session contest s plain outcome := by
  cases hanswer with
  | skipped hskipped =>
    refine .skipped hmeasure hskipped hplain ?_ hcomparison
    rw [hplain, hcompleted]
    exact List.append_nil groups
  | @held pairs deeds hheld hran candidateVersion baselineVersion =>
    have hall : outcome.completed = plain.completed ++
        if contest.candidate.isSome then [⟨"Process Runs", pairs.filterMap RunPair.candidateResult?⟩]
        else [] := by
      rw [hcompleted, hplain]
      cases contest.candidate <;> rfl
    refine .held hmeasure hheld hran (forall₂_reported pairs) hplain hall ?_
    rw [hcomparison, hall, hplain]
    cases contest.candidate <;> rfl

/-- The two runs of a session in which no workload fails. -/
theorem halves_of_measured {contest : Contest} (hcontest : session.settings.contest = some contest)
    (hsink : RefusesBy session.sink refusal) (hlook : host.LooksOnly refusal)
    (hstamp : session.settings.moment = none → ∀ s stamp stamp', refusal s stamp = refusal s stamp')
    {groups : List ResultGroup}
    (hmeasure : (measure host.toGauges session.sampler session.categories).run s =
      (.ok (groups, none), s₁))
    (hspares : contest.Spares refusal host s₁) :
    ∃ plain s', (session.alone.run host).run s = (.ok plain, s') ∧
      ((∃ outcome s'', (session.run host).run s = (.ok outcome, s'') ∧ outcome.success = plain.success ∧
          outcome.error = plain.error ∧ Halves host session contest s plain outcome) ∨
        ∃ s'' deeds, (session.run host).run s = (.error .limitBeyondClock, s'') ∧
          Broken host contest.settings.limit contest.turns .limitBeyondClock deeds) := by
  have halone := @run_of_measured σ host session.alone s s₁ s₁ groups none hmeasure rfl
  refine ⟨_, _, halone, ?_⟩
  obtain ⟨plainMoment, hplainMoment, hplainError, hplainCompleted, hplainComparison⟩ :=
    @conclude_outcome σ host session.alone refusal hlook hsink groups none s₁
  obtain ⟨answer, s₂, hhold⟩ : ∃ r s₂, (contest.hold host).run s₁ = (r, s₂) := ⟨_, _, rfl⟩
  have hheld : (session.holdContest host).run s₁ = (answer, s₂) := by rw [holdContest, hcontest, hhold]
  have hanswer := contest.answer_of_hold host s₁
  rw [hhold] at hanswer
  have hview : refusal s₂ = refusal s₁ := by
    have hspared := Contest.view_of_spares hlook hspares
    rwa [hhold] at hspared
  cases answer with
  | error h =>
    cases hanswer with
    | broken _ hbroken =>
      obtain rfl := hbroken.halt_eq
      exact .inr ⟨s₂, _, run_of_halted hmeasure hheld, hbroken⟩
  | ok shown =>
    obtain ⟨moment, hmoment, herror, hcompleted, hcomparison⟩ :=
      conclude_outcome hlook hsink groups shown s₂
    have hstamps : refusal s₁ moment.stamp = refusal s₁ plainMoment.stamp := by
      cases hfixed : session.settings.moment with
      | none => exact hstamp hfixed s₁ _ _
      | some fixed => rw [hmoment fixed hfixed, hplainMoment fixed hfixed]
    have hsame : (session.conclude host groups shown s₂).1.error =
        (session.alone.conclude host groups none s₁).1.error := by
      rw [herror, hplainError, hview, hstamps]
      rfl
    refine .inl ⟨_, _, run_of_measured hmeasure hheld, congrArg Option.isNone hsame, hsame, ?_⟩
    exact halves_of_answer hmeasure hanswer (hplainCompleted.trans (List.append_nil groups)) hcompleted
      hcomparison

/-- **The contest never disturbs the measurement**: whatever the engines do, as long as they leave alone
whether the sink refuses, a session with a contest is as successful as without, with the same error, and
has the same results of its categories, followed by those of the candidate if there is one and the contest
was held. Where the measurement ends the program, it does so with the contest and without; besides, only a
process under a limit beyond the clock ends the session before. -/
theorem run_halves {contest : Contest} (hcontest : session.settings.contest = some contest)
    (hsink : RefusesBy session.sink refusal) (hlook : host.LooksOnly refusal)
    (hstamp : session.settings.moment = none → ∀ s stamp stamp', refusal s stamp = refusal s stamp') (s : σ)
    (hspares : ∀ groups s₁, (measure host.toGauges session.sampler session.categories).run s =
      (.ok (groups, none), s₁) → contest.Spares refusal host s₁) :
    (∃ h s', (measure host.toGauges session.sampler session.categories).run s = (.error h, s') ∧
        (session.alone.run host).run s = (.error h, s') ∧ (session.run host).run s = (.error h, s')) ∨
    ∃ plain s', (session.alone.run host).run s = (.ok plain, s') ∧
      ((∃ outcome s'', (session.run host).run s = (.ok outcome, s'') ∧ outcome.success = plain.success ∧
          outcome.error = plain.error ∧ Halves host session contest s plain outcome) ∨
        ∃ s'' deeds, (session.run host).run s = (.error .limitBeyondClock, s'') ∧
          Broken host contest.settings.limit contest.turns .limitBeyondClock deeds) := by
  obtain ⟨measured, s₁, hmeasure⟩ : ∃ r s₁,
    (measure host.toGauges session.sampler session.categories).run s = (r, s₁) := ⟨_, _, rfl⟩
  match measured, hmeasure with
  | .error h, hmeasure =>
    have halone := @run_of_unmeasured σ host session.alone s s₁ h hmeasure
    exact .inl ⟨h, s₁, hmeasure, halone, run_of_unmeasured hmeasure⟩
  | .ok (groups, some e), hmeasure =>
    have halone := @run_of_failed σ host session.alone s s₁ groups e hmeasure
    exact .inr ⟨_, s₁, halone, .inl ⟨_, s₁, run_of_failed hmeasure, rfl, rfl, .failed hmeasure rfl⟩⟩
  | .ok (groups, none), hmeasure =>
    exact .inr (halves_of_measured hcontest hsink hlook hstamp hmeasure (hspares groups s₁ hmeasure))

/-! ### A session with a contest -/

/-- A contest of two engines on one file. -/
def duel (limit : Option Nat) : Contest :=
  ⟨some ⟨"Candidate", "./candidate", []⟩, ⟨"Baseline", "./baseline", []⟩, ⟨1, limit⟩, ["a.js"]⟩

/-- Artifacts are refused unless the state is zero. -/
def moodyRefusal (s : Nat) (_ : String) : Option Fault :=
  if s = 0 then none else some (.config "sink" "refused")

/-- A sink that refuses artifacts in this way. -/
def moodySink : Sink (StateM Nat) := fun stamp page document s =>
  (match moodyRefusal s stamp with
    | none => .ok ⟨page, document⟩
    | some e => .error e, s)

theorem moodySink_refusesBy : RefusesBy moodySink moodyRefusal := by
  intro stamp page document s
  unfold moodySink
  dsimp only
  cases moodyRefusal s stamp <;> rfl

/-- A session with that contest and that sink. -/
def contested (limit : Option Nat) : Session (StateM Nat) where
  settings := { Settings.standard with contest := some (duel limit) }
  sampler := ⟨⟨.wall, 0, 0.0⟩, .minimal⟩
  sink := moodySink
  categories := [⟨"first", []⟩]

theorem run_halves_contested :
    (contested none).settings.contest = some (duel none) ∧
      RefusesBy (contested none).sink moodyRefusal ∧ willingHost.LooksOnly moodyRefusal ∧
      ∃ plain outcome s' s'', ((contested none).alone.run willingHost).run 0 = (.ok plain, s') ∧
        ((contested none).run willingHost).run 0 = (.ok outcome, s'') ∧ outcome.error = plain.error ∧
        Halves willingHost (contested none) (duel none) 0 plain outcome := by
  have hcontest : (contested none).settings.contest = some (duel none) := rfl
  have hlook := willingHost_looksOnly moodyRefusal
  have hspares (s : Nat) : (duel none).Spares moodyRefusal willingHost s :=
    ⟨⟨⟨⟨trivial, rfl⟩, rfl⟩, rfl⟩, rfl⟩
  obtain ⟨h, s', hmeasure, -⟩ | ⟨plain, s', hplain, hrun⟩ := run_halves hcontest moodySink_refusesBy
    hlook (fun _ _ _ _ => rfl) 0 fun _ s₁ _ => hspares s₁
  · cases hmeasure
  refine ⟨hcontest, moodySink_refusesBy, hlook, plain, ?_⟩
  obtain ⟨outcome, s'', hrun, -, herror, hhalves⟩ | ⟨s'', deeds, -, hbroken⟩ := hrun
  · exact ⟨outcome, s', s'', hplain, hrun, herror, hhalves⟩
  · exact absurd rfl hbroken.limit_ne_none

/-- The longest limit that can be asked for ends the program, although the session is a success without its
contest. -/
theorem contest_breaks_off :
    ∃ plain s' s'', ((contested (some (18446744073709551615 * Span.second))).alone.run willingHost).run 0 =
        (.ok plain, s') ∧ plain.success = true ∧
      ((contested (some (18446744073709551615 * Span.second))).run willingHost).run 0 =
        (.error .limitBeyondClock, s'') :=
  ⟨_, _, _, rfl, rfl, rfl⟩

end Stopwatch.Session
