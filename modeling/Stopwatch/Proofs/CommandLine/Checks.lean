import Stopwatch.CommandLine.Program
import Stopwatch.Proofs.Host.Deeds

/-!
# The checks of a comparison

A comparison makes its checks before it does anything: that its files can be listed and that there are some,
that there are repetitions, and that both engines are found. The first check that fails decides.

- `Refused`, `Ready`: the first check that fails, or what the checks found; it is one of the two;
- `compare_of_refused`, `compare_of_ready`: what follows;
- `Refused.exitCode`: the exit codes of the checks;
- `Refused.logged`, `Ready.logged`: the checks are no deeds.
-/

namespace Stopwatch.CommandLine.Program

variable {σ : Type} {host : Host (StateM σ)} {request : CompareRequest} {s : σ}

/-! ### The checks -/

/-- The first check of a comparison that fails, with the exit code for it and the state in which the host is
then. -/
inductive Refused (host : Host (StateM σ)) (request : CompareRequest) (s : σ) : Fault → Nat → σ → Prop
  /-- The list of files cannot be made. -/
  | unlisted {e : Fault} {s₁ : σ} (hfiles : request.workloads.resolve host s = (.error e, s₁)) :
      Refused host request s e 2 s₁
  /-- There are no files. -/
  | noFiles {s₁ : σ} (hfiles : request.workloads.resolve host s = (.ok [], s₁)) :
      Refused host request s noFiles 2 s₁
  /-- There are no repetitions. -/
  | noRepeats {files : List String} {s₁ : σ}
      (hfiles : request.workloads.resolve host s = (.ok files, s₁)) (hsome : files ≠ [])
      (hrepeats : request.settings.repeats = 0) :
      Refused host request s (.config "repeat" "must be at least 1") 2 s₁
  /-- The candidate is not found. -/
  | noCandidate {files : List String} {e : Fault} {s₁ s₂ : σ}
      (hfiles : request.workloads.resolve host s = (.ok files, s₁)) (hsome : files ≠ [])
      (hrepeats : request.settings.repeats ≠ 0)
      (hcandidate : request.candidate.locate host s₁ = (.error e, s₂)) :
      Refused host request s e 1 s₂
  /-- The baseline is not found. -/
  | noBaseline {files : List String} {candidate : LocatedEngine} {e : Fault} {s₁ s₂ s₃ : σ}
      (hfiles : request.workloads.resolve host s = (.ok files, s₁)) (hsome : files ≠ [])
      (hrepeats : request.settings.repeats ≠ 0)
      (hcandidate : request.candidate.locate host s₁ = (.ok candidate, s₂))
      (hbaseline : request.baseline.locate host s₂ = (.error e, s₃)) :
      Refused host request s e 1 s₃

/-- All checks of a comparison succeed, and find files and engines. -/
inductive Ready (host : Host (StateM σ)) (request : CompareRequest) (s : σ) :
    List String → LocatedEngine → LocatedEngine → σ → Prop
  | mk {files : List String} {candidate baseline : LocatedEngine} {s₁ s₂ s₃ : σ}
      (hfiles : request.workloads.resolve host s = (.ok files, s₁)) (hsome : files ≠ [])
      (hrepeats : request.settings.repeats ≠ 0)
      (hcandidate : request.candidate.locate host s₁ = (.ok candidate, s₂))
      (hbaseline : request.baseline.locate host s₂ = (.ok baseline, s₃)) :
      Ready host request s files candidate baseline s₃

theorem refused_or_ready (host : Host (StateM σ)) (request : CompareRequest) (s : σ) :
    (∃ e code s', Refused host request s e code s') ∨
      ∃ files candidate baseline s', Ready host request s files candidate baseline s' := by
  obtain ⟨listed, s₁, hfiles⟩ : ∃ r s₁, request.workloads.resolve host s = (r, s₁) := ⟨_, _, rfl⟩
  cases listed with
  | error e => exact .inl ⟨e, 2, s₁, .unlisted hfiles⟩
  | ok files =>
    by_cases hsome : files = []
    · subst hsome
      exact .inl ⟨_, 2, s₁, .noFiles hfiles⟩
    by_cases hrepeats : request.settings.repeats = 0
    · exact .inl ⟨_, 2, s₁, .noRepeats hfiles hsome hrepeats⟩
    obtain ⟨found, s₂, hcandidate⟩ : ∃ r s₂, request.candidate.locate host s₁ = (r, s₂) := ⟨_, _, rfl⟩
    cases found with
    | error e => exact .inl ⟨e, 1, s₂, .noCandidate hfiles hsome hrepeats hcandidate⟩
    | ok candidate =>
      obtain ⟨found, s₃, hbaseline⟩ : ∃ r s₃, request.baseline.locate host s₂ = (r, s₃) := ⟨_, _, rfl⟩
      cases found with
      | error e => exact .inl ⟨e, 1, s₃, .noBaseline hfiles hsome hrepeats hcandidate hbaseline⟩
      | ok baseline => exact .inr ⟨files, candidate, baseline, s₃,
          .mk hfiles hsome hrepeats hcandidate hbaseline⟩

/-- The batch of a request. -/
def batchOf (request : CompareRequest) : Batch := ⟨request.candidate, request.baseline, request.settings⟩

/-- Once there are files and repetitions, the engines are looked for. -/
theorem compare_of_listed (common : Common) {files : List String} {s₁ : σ}
    (hfiles : request.workloads.resolve host s = (.ok files, s₁)) (hsome : files ≠ [])
    (hrepeats : request.settings.repeats ≠ 0) :
    compare host common request s = ((batchOf request).preflight host >>= fun found =>
      match found with
      | .error e => pure (.fault "" e)
      | .ok (candidate, baseline) =>
        compareLocated host common request.resultsDirectory (batchOf request) files candidate baseline)
      s₁ := by
  unfold compare Batch.make
  rw [run_bind_of_eq hfiles]
  dsimp only
  rw [if_neg (by rwa [List.isEmpty_iff]), if_neg hrepeats]
  rfl

theorem preflight_of_noCandidate {batch : Batch} {e : Fault} {s s' : σ}
    (h : batch.candidate.locate host s = (.error e, s')) : batch.preflight host s = (.error e, s') := by
  unfold Batch.preflight
  rw [run_bind_of_eq h]
  rfl

theorem preflight_of_candidate {batch : Batch} {candidate : LocatedEngine} {found : Except Fault LocatedEngine}
    {s s' s'' : σ} (h : batch.candidate.locate host s = (.ok candidate, s'))
    (h' : batch.baseline.locate host s' = (found, s'')) :
    batch.preflight host s = (found.map fun baseline => (candidate, baseline), s'') := by
  unfold Batch.preflight
  rw [run_bind_of_eq h]
  dsimp only
  rw [run_bind_of_eq h']
  cases found <;> rfl

/-- Where a check fails, nothing follows. -/
theorem compare_of_refused {e : Fault} {code : Nat} {s' : σ} (h : Refused host request s e code s')
    (common : Common) : compare host common request s = (.fault "" e, s') := by
  cases h with
  | unlisted hfiles => exact run_bind_of_eq hfiles _
  | noFiles hfiles => exact run_bind_of_eq hfiles _
  | noRepeats hfiles hsome hrepeats =>
    unfold compare Batch.make
    rw [run_bind_of_eq hfiles]
    dsimp only
    rw [if_neg (by rwa [List.isEmpty_iff]), if_pos hrepeats]
    rfl
  | noCandidate hfiles hsome hrepeats hcandidate =>
    have hbatch : (batchOf request).candidate = request.candidate := rfl
    rw [compare_of_listed common hfiles hsome hrepeats,
      run_bind_of_eq (preflight_of_noCandidate (hbatch ▸ hcandidate))]
    rfl
  | noBaseline hfiles hsome hrepeats hcandidate hbaseline =>
    rw [compare_of_listed common hfiles hsome hrepeats,
      run_bind_of_eq (preflight_of_candidate hcandidate hbaseline)]
    rfl

theorem compare_of_ready {files : List String} {candidate baseline : LocatedEngine} {s' : σ}
    (h : Ready host request s files candidate baseline s') (common : Common) :
    compare host common request s =
      compareLocated host common request.resultsDirectory (batchOf request) files candidate baseline s' := by
  cases h with
  | mk hfiles hsome hrepeats hcandidate hbaseline =>
    rw [compare_of_listed common hfiles hsome hrepeats,
      run_bind_of_eq (preflight_of_candidate hcandidate hbaseline)]
    rfl

/-! ### The exit codes of the checks -/

/-- An answer is no fault but one with some exit code. -/
def FailsWith {α : Type} (code : Nat) (r : Except Fault α) : Prop := ∀ e, r = .error e → e.exitCode = code

theorem failsWith_ok {α : Type} {code : Nat} (a : α) : FailsWith code (.ok a) := nofun

theorem FailsWith.error {α β : Type} {code : Nat} {e : Fault} (h : FailsWith code (.error e : Except Fault α)) :
    FailsWith code (.error e : Except Fault β) := by
  rintro _ ⟨⟩
  exact h e rfl

theorem gives_load (path : String) : Gives (Suite.load host path) (FailsWith 2) := by
  refine (Gives.any (host.readText path)).bind fun answer _ => ?_
  cases answer with
  | error e => exact .pure (by rintro _ ⟨⟩; rfl)
  | ok text =>
    refine .pure ?_
    unfold Suite.parse
    split
    · rintro _ ⟨⟩
      rfl
    · rintro _ ⟨⟩
      rfl
    · exact failsWith_ok _

theorem gives_suiteFiles (source : WorkloadSource) : Gives (source.suiteFiles host) (FailsWith 2) := by
  unfold WorkloadSource.suiteFiles
  cases source.suite with
  | none => exact .pure (failsWith_ok _)
  | some path =>
    refine (gives_load path).bind fun loaded hloaded => ?_
    cases loaded with
    | error e => exact .pure hloaded.error
    | ok suite => exact .pure (failsWith_ok _)

theorem gives_foundFiles (source : WorkloadSource) : Gives (source.foundFiles host) (FailsWith 2) := by
  unfold WorkloadSource.foundFiles
  cases source.directory with
  | none => exact .pure (failsWith_ok _)
  | some directory =>
    refine (Gives.any (host.isDirectory directory)).bind fun answer _ => ?_
    cases answer
    · exact .pure (by rintro _ ⟨⟩; rfl)
    · exact (Gives.any _).bind fun _ _ => .pure (failsWith_ok _)

/-- A list of files that cannot be made is a mistake in the request. -/
theorem gives_resolve (source : WorkloadSource) : Gives (source.resolve host) (FailsWith 2) := by
  refine (gives_suiteFiles source).bind fun listed hlisted => ?_
  cases listed with
  | error e => exact .pure hlisted.error
  | ok listed =>
    refine (gives_foundFiles source).bind fun found hfound => ?_
    cases found with
    | error e => exact .pure hfound.error
    | ok found => exact .pure (failsWith_ok _)

/-- An engine that is not found is a failure. -/
theorem gives_locate (engine : Engine) : Gives (engine.locate host) (FailsWith 1) := by
  refine (Gives.any _).bind fun search _ => (Gives.any _).bind fun found _ => ?_
  cases found with
  | none => exact .pure (by rintro _ ⟨⟩; rfl)
  | some path => exact (Gives.any _).bind fun _ _ => .pure (failsWith_ok _)

theorem Refused.exitCode {e : Fault} {code : Nat} {s' : σ} (h : Refused host request s e code s') :
    e.exitCode = code := by
  cases h with
  | unlisted hfiles => exact gives_resolve request.workloads s e (congrArg Prod.fst hfiles)
  | noFiles hfiles => rfl
  | noRepeats hfiles hsome hrepeats => rfl
  | noCandidate hfiles hsome hrepeats hcandidate =>
    exact gives_locate request.candidate _ e (congrArg Prod.fst hcandidate)
  | noBaseline hfiles hsome hrepeats hcandidate hbaseline =>
    exact gives_locate request.baseline _ e (congrArg Prod.fst hbaseline)

/-! ### On a logged host -/

/-- The checks of a logged host are no deeds. -/
theorem Refused.logged {e : Fault} {code : Nat} {s' : σ} (h : Refused host request s e code s')
    (log : List Deed) : Refused host.logged request (s, log) e code (s', log) := by
  have hlook := host.logged_looksAlike
  have hresolve {s s₁ : σ} {r} (h : request.workloads.resolve host s = (r, s₁)) :=
    logged_eq (fun log => (hlook log).resolve request.workloads) h log
  have hlocate {engine : Engine} {s s₁ : σ} {r} (h : engine.locate host s = (r, s₁)) :=
    logged_eq (fun log => (hlook log).locate engine) h log
  cases h with
  | unlisted hfiles => exact .unlisted (hresolve hfiles)
  | noFiles hfiles => exact .noFiles (hresolve hfiles)
  | noRepeats hfiles hsome hrepeats => exact .noRepeats (hresolve hfiles) hsome hrepeats
  | noCandidate hfiles hsome hrepeats hcandidate =>
    exact .noCandidate (hresolve hfiles) hsome hrepeats (hlocate hcandidate)
  | noBaseline hfiles hsome hrepeats hcandidate hbaseline =>
    exact .noBaseline (hresolve hfiles) hsome hrepeats (hlocate hcandidate) (hlocate hbaseline)

theorem Ready.logged {files : List String} {candidate baseline : LocatedEngine} {s' : σ}
    (h : Ready host request s files candidate baseline s') (log : List Deed) :
    Ready host.logged request (s, log) files candidate baseline (s', log) := by
  have hlook := host.logged_looksAlike
  have hlocate {engine : Engine} {s s₁ : σ} {r} (h : engine.locate host s = (r, s₁)) :=
    logged_eq (fun log => (hlook log).locate engine) h log
  cases h with
  | mk hfiles hsome hrepeats hcandidate hbaseline =>
    exact .mk (logged_eq (fun log => (hlook log).resolve request.workloads) hfiles log) hsome hrepeats
      (hlocate hcandidate) (hlocate hbaseline)

end Stopwatch.CommandLine.Program
