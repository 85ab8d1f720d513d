import Stopwatch.Proofs.Host.Deeds

/-!
# The turns of a contest

A contest has a turn for each file, each engine and each repetition, in this order. In a turn an engine is
looked for and, if it is found, one process is started; whatever comes of it is a record, and the next turn
follows. Only a process that is started under a limit beyond the clock ends the contest.

- `Attempt`, `Overrun`: one turn, with its record and its deeds, or without a record;
- `Carried`, `Broken`: turns that were carried out one after the other, all of them or up to an overrun;
- `Contest.turns`: the turns of a contest;
- `Contest.Ran`, `Contest.does_runs`: all of them.
-/

namespace Stopwatch

variable {σ : Type} {host : Host (StateM σ)}

/-! ### One turn -/

/-- What comes of a turn of an engine on a file. -/
inductive Attempt (host : Host (StateM σ)) (limit : Option Nat) (engine : Engine) (file : String) :
    ProcessRun → List Deed → Prop
  /-- The engine was found, and one process was started on the file; its end is the record. -/
  | started {located : LocatedEngine} {s s' t : σ} {target : String}
      (hlocate : engine.locate host s = (.ok located, s'))
      (htarget : (host.canonical? file t).1.getD file = target)
      (fingerprint : Option String) (answer : Except ProcessError Finished) :
      Attempt host limit engine file { located.recordOf file answer with fingerprint }
        [.execute (located.invocation target limit) answer]
  /-- The engine was not found, and nothing was done. -/
  | missing {e : Fault} {s s' : σ} (hlocate : engine.locate host s = (.error e, s')) :
      Attempt host limit engine file (.failure engine.label file e.message) []

/-- A process was started under a limit that, from the moment before its start, ends beyond the clock, and
that ended the program. -/
inductive Overrun (host : Host (StateM σ)) (limit : Option Nat) (engine : Engine) (file : String) :
    Halt → List Deed → Prop
  | mk {located : LocatedEngine} {s s' t u : σ} {target : String} {span : Nat}
      (hlocate : engine.locate host s = (.ok located, s'))
      (htarget : (host.canonical? file t).1.getD file = target)
      (hlimit : limit = some span) (hbeyond : Limit.isBeyondClock (host.monotonic u).1 span = true)
      (finished : Finished) :
      Overrun host limit engine file .limitBeyondClock
        [.execute (located.invocation target limit) (.ok finished)]

theorem does_runLocated {limit : Option Nat} {engine : Engine} {located : LocatedEngine} {s s' : σ}
    (hlocate : engine.locate host s = (.ok located, s')) (file : String) :
    DoesT (located.run host.logged limit file) (located.run host limit file)
      (Attempt host limit engine file) (Overrun host limit engine file) := by
  have hlook := host.logged_looksAlike
  refine DoesT.afterLooking (fun log => (hlook log).fingerprint? file) fun fingerprint _ => ?_
  refine DoesT.afterLooking (fun log => (hlook log).canonical? file) fun canonical hcanonical => ?_
  refine DoesT.afterLooking (fun log => (hlook log).monotonic) fun start hstart => ?_
  obtain ⟨t, t', hcanonical⟩ := hcanonical
  obtain ⟨u, u', hstart⟩ := hstart
  have htarget : (host.canonical? file t).1.getD file = canonical.getD file := by rw [hcanonical]
  refine DoesT.afterDeed fun answer => ?_
  dsimp only
  split
  · rename_i hhalted
    cases answer with
    | error e => cases hhalted
    | ok finished =>
      cases limit with
      | none => cases hhalted
      | some span =>
        rw [LocatedEngine.isHalted, Option.any_some] at hhalted
        exact DoesT.throw (.mk hlocate htarget rfl (by rw [hstart]; exact hhalted) finished)
  · exact DoesT.pure (.started hlocate htarget fingerprint answer)

theorem does_run (limit : Option Nat) (engine : Engine) (file : String) :
    DoesT (engine.run host.logged limit file) (engine.run host limit file)
      (Attempt host limit engine file) (Overrun host limit engine file) := by
  refine DoesT.afterLooking (fun log => (host.logged_looksAlike log).locate engine) fun found hfound => ?_
  obtain ⟨s, s', hlocate⟩ := hfound
  cases found with
  | ok located => exact does_runLocated hlocate file
  | error e => exact DoesT.pure (.missing hlocate)

/-! ### Turn after turn -/

/-- The turns of engines on files were carried out one after the other, each whatever came of those before
it. -/
inductive Carried (host : Host (StateM σ)) (limit : Option Nat) :
    List (Engine × String) → List ProcessRun → List Deed → Prop
  | nil : Carried host limit [] [] []
  | cons {engine : Engine} {file : String} {run : ProcessRun} {first others : List Deed}
      {turns : List (Engine × String)} {runs : List ProcessRun}
      (hattempt : Attempt host limit engine file run first) (hrest : Carried host limit turns runs others) :
      Carried host limit ((engine, file) :: turns) (run :: runs) (first ++ others)

/-- The turns of engines on files were carried out one after the other up to an overrun. -/
inductive Broken (host : Host (StateM σ)) (limit : Option Nat) :
    List (Engine × String) → Halt → List Deed → Prop
  | now {engine : Engine} {file : String} {h : Halt} {deeds : List Deed} (turns : List (Engine × String))
      (hoverrun : Overrun host limit engine file h deeds) :
      Broken host limit ((engine, file) :: turns) h deeds
  | later {engine : Engine} {file : String} {run : ProcessRun} {first others : List Deed}
      {turns : List (Engine × String)} {h : Halt}
      (hattempt : Attempt host limit engine file run first) (hrest : Broken host limit turns h others) :
      Broken host limit ((engine, file) :: turns) h (first ++ others)

section
variable {limit : Option Nat} {turns turns' : List (Engine × String)} {runs runs' : List ProcessRun}
  {deeds deeds' : List Deed} {halt : Halt}

theorem Carried.length_eq (h : Carried host limit turns runs deeds) : runs.length = turns.length := by
  induction h with
  | nil => rfl
  | cons _ _ ih => rw [List.length_cons, List.length_cons, ih]

theorem Carried.append (h : Carried host limit turns runs deeds)
    (h' : Carried host limit turns' runs' deeds') :
    Carried host limit (turns ++ turns') (runs ++ runs') (deeds ++ deeds') := by
  induction h with
  | nil => exact h'
  | cons hattempt _ ih =>
    rw [List.append_assoc]
    exact .cons hattempt ih

theorem Carried.broken (h : Carried host limit turns runs deeds)
    (h' : Broken host limit turns' halt deeds') :
    Broken host limit (turns ++ turns') halt (deeds ++ deeds') := by
  induction h with
  | nil => exact h'
  | cons hattempt _ ih =>
    rw [List.append_assoc]
    exact .later hattempt ih

theorem Broken.append (h : Broken host limit turns halt deeds) (more : List (Engine × String)) :
    Broken host limit (turns ++ more) halt deeds := by
  induction h with
  | now turns hoverrun => exact .now _ hoverrun
  | later hattempt _ ih => exact .later hattempt ih

/-- It is the limit that ends the program. -/
theorem Broken.halt_eq (h : Broken host limit turns halt deeds) : halt = .limitBeyondClock := by
  induction h with
  | now turns hoverrun =>
    cases hoverrun
    rfl
  | later _ _ ih => exact ih

/-- Without a limit nothing breaks off. -/
theorem Broken.limit_ne_none (h : Broken host limit turns halt deeds) : limit ≠ none := by
  induction h with
  | now turns hoverrun =>
    cases hoverrun with
    | mk _ _ hlimit _ _ => simp [hlimit]
  | later _ _ ih => exact ih

end

theorem does_times {limit : Option Nat} {engine : Engine} {file : String}
    {act : ExceptT Halt (Logged σ) ProcessRun} {plain : ExceptT Halt (StateM σ) ProcessRun}
    (h : DoesT act plain (Attempt host limit engine file) (Overrun host limit engine file)) (n : Nat) :
    DoesT (Batch.times act n) (Batch.times plain n)
      (Carried host limit (List.replicate n (engine, file)))
      (Broken host limit (List.replicate n (engine, file))) := by
  induction n with
  | zero => exact DoesT.pure .nil
  | succ n ih =>
    refine h.bind (fun _ deeds hoverrun => .now _ hoverrun) fun run first hfirst => ?_
    refine ih.bind (fun _ deeds hbroken => .later hfirst hbroken) fun runs others hothers => ?_
    refine DoesT.pure ?_
    rw [List.append_nil]
    exact .cons hfirst hothers

/-! ### A contest -/

namespace Contest

/-- The turns on one file: the repetitions of the candidate, if there is one, then those of the baseline. -/
def turnsOn (contest : Contest) (file : String) : List (Engine × String) :=
  (match contest.candidate with
    | some candidate => List.replicate contest.settings.repeats (candidate, file)
    | none => []) ++ List.replicate contest.settings.repeats (contest.baseline, file)

/-- All turns, file by file. -/
def turns (contest : Contest) : List (Engine × String) := contest.files.flatMap contest.turnsOn

/-- How many runs a pair has on its two sides. -/
def HasRuns (contest : Contest) (p : RunPair) : Prop :=
  p.candidate.length = (if contest.candidate.isSome then contest.settings.repeats else 0) ∧
    p.baseline.length = contest.settings.repeats

/-- All turns of a contest were carried out: there is a pair for each file, in order, with the records of its
turns. -/
structure Ran (host : Host (StateM σ)) (contest : Contest) (pairs : List RunPair) (deeds : List Deed) :
    Prop where
  named : pairs.map RunPair.file = contest.files
  sides : ∀ p ∈ pairs, contest.HasRuns p
  carried : Carried host contest.settings.limit contest.turns (pairs.flatMap RunPair.runs) deeds

/-- The turns on one file were carried out. -/
structure RanOn (host : Host (StateM σ)) (contest : Contest) (file : String) (pair : RunPair)
    (deeds : List Deed) : Prop where
  named : pair.file = file
  sides : contest.HasRuns pair
  carried : Carried host contest.settings.limit (contest.turnsOn file) pair.runs deeds

theorem does_compareFile {contest : Contest} {candidate : Engine} (hcandidate : contest.candidate = some candidate)
    (file : String) :
    DoesT (Batch.compareFile host.logged ⟨candidate, contest.baseline, contest.settings⟩ file)
      (Batch.compareFile host ⟨candidate, contest.baseline, contest.settings⟩ file)
      (contest.RanOn host file) (Broken host contest.settings.limit (contest.turnsOn file)) := by
  have hturns : contest.turnsOn file =
      List.replicate contest.settings.repeats (candidate, file) ++
        List.replicate contest.settings.repeats (contest.baseline, file) := by
    rw [turnsOn, hcandidate]
  rw [hturns]
  refine (does_times (does_run _ candidate file) _).bind
    (fun _ deeds hbroken => hbroken.append _) fun candidateRuns first hfirst => ?_
  refine (does_times (does_run _ contest.baseline file) _).bind
    (fun _ deeds hbroken => hfirst.broken hbroken) fun baselineRuns second hsecond => ?_
  refine DoesT.pure ⟨rfl, ⟨?_, ?_⟩, ?_⟩
  · rw [hcandidate]
    simpa using hfirst.length_eq
  · simpa using hsecond.length_eq
  · rw [List.append_nil, hturns]
    exact hfirst.append hsecond

theorem does_baselineFile {contest : Contest} (hcandidate : contest.candidate = none)
    {baseline : LocatedEngine} {s s' : σ} (hbaseline : contest.baseline.locate host s = (.ok baseline, s'))
    (file : String) :
    DoesT
      (do
        let runs ← Batch.times (baseline.run host.logged contest.settings.limit file) contest.settings.repeats
        pure ⟨file, [], runs⟩)
      (do
        let runs ← Batch.times (baseline.run host contest.settings.limit file) contest.settings.repeats
        pure ⟨file, [], runs⟩)
      (contest.RanOn host file) (Broken host contest.settings.limit (contest.turnsOn file)) := by
  have hturns : contest.turnsOn file = List.replicate contest.settings.repeats (contest.baseline, file) := by
    rw [turnsOn, hcandidate, List.nil_append]
  rw [hturns]
  refine (does_times (does_runLocated hbaseline file) _).bind (fun _ _ hbroken => hbroken)
    fun runs deeds hdeeds => ?_
  refine DoesT.pure ⟨rfl, ⟨?_, ?_⟩, ?_⟩
  · rw [hcandidate]
    rfl
  · simpa using hdeeds.length_eq
  · rw [List.append_nil, hturns]
    exact hdeeds

theorem does_each {contest : Contest} {act : String → ExceptT Halt (Logged σ) RunPair}
    {plain : String → ExceptT Halt (StateM σ) RunPair}
    (h : ∀ file, DoesT (act file) (plain file) (contest.RanOn host file)
      (Broken host contest.settings.limit (contest.turnsOn file))) :
    DoesT (Batch.each act contest.files) (Batch.each plain contest.files) (contest.Ran host)
      (Broken host contest.settings.limit contest.turns) := by
  -- the contest stays the same while its files are taken one by one
  suffices hfiles : ∀ files, DoesT (Batch.each act files) (Batch.each plain files)
      (fun pairs deeds => pairs.map RunPair.file = files ∧ (∀ p ∈ pairs, contest.HasRuns p) ∧
        Carried host contest.settings.limit (files.flatMap contest.turnsOn) (pairs.flatMap RunPair.runs) deeds)
      (Broken host contest.settings.limit (files.flatMap contest.turnsOn)) from
    (hfiles contest.files).mono fun pairs deeds ⟨hnamed, hsides, hcarried⟩ => ⟨hnamed, hsides, hcarried⟩
  intro files
  induction files with
  | nil => exact DoesT.pure ⟨rfl, by simp, .nil⟩
  | cons file files ih =>
    refine (h file).bind (fun _ deeds hbroken => hbroken.append _) fun pair first hpair => ?_
    refine ih.bind (fun _ deeds hbroken => hpair.carried.broken hbroken) fun pairs others hpairs => ?_
    obtain ⟨hnamed, hsides, hcarried⟩ := hpairs
    refine DoesT.pure ⟨by rw [List.map_cons, hpair.named, hnamed],
      List.forall_mem_cons.mpr ⟨hpair.sides, hsides⟩, ?_⟩
    rw [List.append_nil]
    exact hpair.carried.append hcarried

theorem does_runs (contest : Contest) {baseline : LocatedEngine} {s s' : σ}
    (hbaseline : contest.baseline.locate host s = (.ok baseline, s')) :
    DoesT (contest.runs host.logged baseline) (contest.runs host baseline) (contest.Ran host)
      (Broken host contest.settings.limit contest.turns) := by
  unfold runs
  cases hcandidate : contest.candidate with
  | some candidate => exact does_each (does_compareFile hcandidate)
  | none => exact does_each (does_baselineFile hcandidate hbaseline)

end Contest

end Stopwatch
