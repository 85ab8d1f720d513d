import Stopwatch.Proofs.Engine.Turns
import Stopwatch.Proofs.Session.Runs

/-!
# Contests

A contest is held if it has files and repetitions and its baseline is found. Then it ends with the pairs of
all its turns, unless one of them is under a limit beyond the clock.

- `Contest.IsHeld`, `Contest.Answer`, `Contest.answer_of_hold`: when a contest is held, and what it shows;
- `LastReport`: what a pair reports;
- `Contest.Spares`, `Contest.view_of_spares`: a contest whose processes leave a part of the state alone
  leaves it alone itself.
-/

namespace Stopwatch

variable {σ γ α : Type} {host : Host (StateM σ)} {contest : Contest} {s : σ}

namespace Contest

/-! ### What a contest shows -/

/-- A contest has files and repetitions, and its baseline is found. -/
structure IsHeld (host : Host (StateM σ)) (contest : Contest) (s : σ) : Prop where
  files : contest.files ≠ []
  baseline : ∃ baseline s', contest.baseline.locate host s = (.ok baseline, s')
  repeats : contest.settings.repeats ≠ 0

/-- How a contest ends. -/
inductive Answer (host : Host (StateM σ)) (contest : Contest) (s : σ) : Except Halt (Option Result) → Prop
  | skipped (hskipped : ¬contest.IsHeld host s) : Answer host contest s (.ok none)
  | held {pairs : List RunPair} {deeds : List Deed} (hheld : contest.IsHeld host s)
      (hran : contest.Ran host pairs deeds) (candidateVersion baselineVersion : Option String) :
      Answer host contest s
        (.ok (some (.of contest.candidate.isSome pairs candidateVersion baselineVersion)))
  | broken {h : Halt} {deeds : List Deed} (hheld : contest.IsHeld host s)
      (hbroken : Broken host contest.settings.limit contest.turns h deeds) :
      Answer host contest s (.error h)

theorem answer_of_hold (host : Host (StateM σ)) (contest : Contest) (s : σ) :
    contest.Answer host s ((contest.hold host).run s).1 := by
  unfold hold
  split
  · rename_i hfiles
    exact .skipped fun hheld => hheld.files (List.isEmpty_iff.mp hfiles)
  rename_i hfiles
  obtain ⟨found, s', hfound⟩ : ∃ r s', contest.baseline.locate host s = (r, s') := ⟨_, _, rfl⟩
  rw [run_lift_bind_of_eq hfound]
  cases found with
  | error e =>
    refine .skipped fun hheld => ?_
    obtain ⟨baseline, s'', hbaseline⟩ := hheld.baseline
    cases hfound.symm.trans hbaseline
  | ok baseline =>
    refine Gives.afterAny (fun baselineVersion => Gives.afterAny fun candidateVersion => ?_) s'
    split
    · rename_i hrepeats
      exact Gives.pure (.skipped fun hheld => hheld.repeats hrepeats)
    · rename_i hrepeats
      have hheld : contest.IsHeld host s :=
        ⟨fun hnone => hfiles (List.isEmpty_iff.mpr hnone), ⟨baseline, s', hfound⟩, hrepeats⟩
      refine (Does.gives (contest.does_runs hfound)).bindT ?_ ?_
      · rintro e ⟨deeds, hbroken⟩
        exact .broken hheld hbroken
      · rintro pairs ⟨deeds, hran⟩
        exact Gives.pure (.held hheld hran candidateVersion baselineVersion)

end Contest

/-! ### What a pair reports -/

/-- What a pair reports: the results that the last successful baseline run printed, if there is such a run
and if it printed any. -/
inductive LastReport (p : RunPair) : List ResultGroup → Prop
  | none (hfailed : ∀ r ∈ p.baseline, r.succeeded = false) : LastReport p []
  | last {before after : List ProcessRun} {run : ProcessRun} (hruns : p.baseline = before ++ run :: after)
      (hrun : run.succeeded = true) (hafter : ∀ r ∈ after, r.succeeded = false) :
      LastReport p ((Reported.groups? run.stdout).getD [])

theorem lastReport_reported (p : RunPair) : LastReport p (Contest.reported p) := by
  unfold Contest.reported
  cases hfind : p.baseline.reverse.find? ProcessRun.succeeded with
  | none =>
    refine .none fun r hr => ?_
    simpa using List.find?_eq_none.mp hfind r (List.mem_reverse.mpr hr)
  | some run =>
    obtain ⟨hrun, after, before, hruns, hafter⟩ := List.find?_eq_some_iff_append.mp hfind
    have hbaseline : p.baseline = before.reverse ++ run :: after.reverse := by
      rw [← List.reverse_reverse p.baseline, hruns]
      simp
    exact .last hbaseline hrun (by simpa using hafter)

/-! ### What a contest leaves alone -/

/-- An action that does not change what was judged so far. -/
def unjudged (act : StateM σ α) : StateM (σ × Prop) α := fun (s, judged) =>
  let (a, s') := act s
  (a, s', judged)

/-- The host with the judgement beside the state that every process so far has left a view of the state as it
was. -/
def Host.judging (view : σ → γ) (host : Host (StateM σ)) : Host (StateM (σ × Prop)) :=
  { host.mapM unjudged with
    execute call := fun (s, judged) =>
      let (answer, s') := host.execute call s
      (answer, s', judged ∧ view s' = view s) }

/-- The actions that look at something leave a view of the state as it is. -/
def Host.LooksOnly (view : σ → γ) (host : Host (StateM σ)) : Prop :=
  ∀ v, host.LooksAlike (fun s t => s = t ∧ view s = v) host

namespace Contest

/-- Every process of a contest leaves a view of the state as it is. -/
def Spares (view : σ → γ) (host : Host (StateM σ)) (contest : Contest) (s : σ) : Prop :=
  ((contest.hold (host.judging view)).run (s, True)).2.2

variable {view : σ → γ}

/-- As long as the judgement is good, the view is what it was. -/
def Judged (view : σ → γ) (v : γ) (p : σ × Prop) (s : σ) : Prop := p.1 = s ∧ (p.2 → view s = v)

theorem unjudged_alike {act : StateM σ α} {v : γ} (h : Alike (fun s t => s = t ∧ view s = v) act act) :
    Alike (Judged view v) (unjudged act) act := by
  rintro ⟨_, judged⟩ s ⟨rfl, hjudged⟩
  exact ⟨rfl, rfl, fun hgood => (h _ _ ⟨rfl, hjudged hgood⟩).2.2⟩

theorem judging_runsAlike (hlook : host.LooksOnly view) (v : γ) :
    (host.judging view).RunsAlike (Judged view v) host where
  monotonic := unjudged_alike (hlook v).monotonic
  wall := unjudged_alike (hlook v).wall
  status := unjudged_alike (hlook v).status
  machine := unjudged_alike (hlook v).machine
  environment name := unjudged_alike ((hlook v).environment name)
  read path := unjudged_alike ((hlook v).read path)
  isFile path := unjudged_alike ((hlook v).isFile path)
  isDirectory path := unjudged_alike ((hlook v).isDirectory path)
  canonical? path := unjudged_alike ((hlook v).canonical? path)
  walk path := unjudged_alike ((hlook v).walk path)
  execute call := by
    rintro ⟨_, judged⟩ s ⟨rfl, hjudged⟩
    exact ⟨rfl, rfl, fun ⟨hgood, hview⟩ => hview.trans (hjudged hgood)⟩

theorem view_of_spares (hlook : host.LooksOnly view) (hspares : contest.Spares view host s) :
    view ((contest.hold host).run s).2 = view s :=
  ((judging_runsAlike hlook (view s)).hold contest (s, True) s ⟨rfl, fun _ => rfl⟩).2.2 hspares

end Contest

/-! ### Engines that always run -/

/-- A host on which every engine is found and every process ends well. Nothing changes its state. -/
def willingHost : Host (StateM Nat) :=
  { Session.idleHost with
    write _ _ := pure (.ok ())
    createDirectories _ := pure (.ok ())
    isFile _ := pure true
    execute _ := pure (.ok ⟨.code 0, false, 0, .empty, .empty⟩) }

theorem willingHost_looksOnly (view : Nat → γ) : willingHost.LooksOnly view := fun _ =>
  { monotonic := .pure _, wall := .pure _, status := .pure _, machine := .pure _,
    environment := fun _ => .pure _, read := fun _ => .pure _, isFile := fun _ => .pure _,
    isDirectory := fun _ => .pure _, canonical? := fun _ => .pure _, walk := fun _ => .pure _ }

end Stopwatch
