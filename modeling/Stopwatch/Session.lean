import Stopwatch.Artifact
import Stopwatch.Engine.Batch
import Stopwatch.Report.Page
import Stopwatch.Report.Record
import Stopwatch.Results.Reported
import Stopwatch.Tally
import Stopwatch.Workload

/-!
# Sessions

A session measures its registered categories in order, runs engines on workload files if it is asked to,
and puts the report on all this into a sink. The first workload that fails ends the run, and nothing is
kept. Trouble with the engines never does: at worst there is no comparison. A halt of the program ends the
session, and nothing is kept either.

- `Contest.hold`: the runs of the engines, and what they add to the results;
- `Session.run`: one run from the first measurement to the artifacts.
-/

namespace Stopwatch

/-! ### Contests -/

/-- Engines to run on workload files. Without a candidate only the baseline runs, and the categories of
the session stand for the candidate. -/
structure Contest where
  candidate : Option Engine
  baseline : Engine
  settings : RunSettings
  files : List String
deriving DecidableEq, Repr, Inhabited

namespace Contest

/-- What the engines showed. -/
structure Result where
  pairs : List RunPair
  /-- What the candidate is compared with: the results that the baseline reported, and its timings if
  there is a candidate. -/
  baseline : List ResultGroup
  /-- The timings of the candidate, if there is one. -/
  candidate : Option ResultGroup
  candidateVersion : Option String
  baselineVersion : Option String
deriving DecidableEq, Inhabited

/-- The results that the last successful baseline run of a pair printed. -/
def reported (pair : RunPair) : List ResultGroup :=
  ((pair.baseline.reverse.find? ProcessRun.succeeded).bind fun run =>
    Reported.groups? run.stdout).getD []

/-- What some pairs show. -/
def Result.of (hasCandidate : Bool) (pairs : List RunPair)
    (candidateVersion baselineVersion : Option String) : Result where
  pairs
  baseline := pairs.flatMap reported ++ if hasCandidate then [RunPair.baselineGroup pairs] else []
  candidate := if hasCandidate then some (RunPair.candidateGroup pairs) else none
  candidateVersion
  baselineVersion

variable {m : Type → Type} [Monad m]

/-- The version of an engine that may be missing. -/
def version (host : Host m) : Option Engine → m (Option String)
  | none => pure none
  | some engine => do
    match ← engine.locate host with
    | .error _ => pure none
    | .ok located => located.version host

/-- The runs of a contest. -/
def runs (host : Host m) (contest : Contest) (baseline : LocatedEngine) :
    ExceptT Halt m (List RunPair) :=
  match contest.candidate with
  | some candidate =>
    Batch.compareAll host ⟨candidate, contest.baseline, contest.settings⟩ contest.files
  | none => Batch.baselineAll host contest.settings baseline contest.files

/-- Holds a contest. There is none without files, without a baseline or without runs. -/
def hold (host : Host m) (contest : Contest) : ExceptT Halt m (Option Result) := do
  if contest.files.isEmpty then pure none
  else
    match ← (contest.baseline.locate host : m _) with
    | .error _ => pure none
    | .ok baseline =>
      let baselineVersion ← (baseline.version host : m _)
      let candidateVersion ← (version host contest.candidate : m _)
      if contest.settings.repeats = 0 then pure none
      else
        let pairs ← contest.runs host baseline
        pure (some (.of contest.candidate.isSome pairs candidateVersion baselineVersion))

end Contest

/-! ### Sessions -/

namespace Session

structure Settings where
  profile : Profile
  candidateLabel : String
  baselineLabel : String
  contest : Option Contest
  /-- Whether artifacts are kept. -/
  persist : Bool
  /-- The time in the report, if it is not the time of the run. -/
  moment : Option Moment
deriving DecidableEq, Repr

/-- The settings that hold unless others are given. -/
def Settings.standard : Settings := ⟨.quick, "Candidate", "Baseline", none, true, none⟩

instance : Inhabited Settings := ⟨Settings.standard⟩

/-- What became of a run. -/
structure Outcome where
  categoryCount : Nat
  testCount : Nat
  compared : Nat
  artifact : Option Artifact
  /-- What went wrong, in words. -/
  error : Option String
  /-- All results, or those of the categories before the failure. -/
  completed : List ResultGroup
  comparison : Option Comparison
  tally : Option Tally
deriving DecidableEq, Inhabited

/-- A run is a success if nothing went wrong. -/
def Outcome.success (o : Outcome) : Bool := o.error.isNone

/-- The outcome of a run that a failure ended. -/
def Outcome.failed (completed : List ResultGroup) (e : Fault) : Outcome where
  categoryCount := completed.length
  testCount := ResultGroup.testCount completed
  compared := 0
  artifact := none
  error := some e.message
  completed
  comparison := none
  tally := none

end Session

/-- A session with the categories that were registered, in order. -/
structure Session (m : Type → Type) where
  settings : Session.Settings
  sampler : Sampler
  sink : Sink m
  categories : List (Category m)

namespace Session

variable {m : Type → Type} [Monad m]

/-- Registers one more category. -/
def register (category : Category m) (session : Session m) : Session m :=
  { session with categories := session.categories ++ [category] }

/-- The results of some categories up to the first failure, with that failure. -/
def measure (gauges : Gauges m) (sampler : Sampler) :
    List (Category m) → ExceptT Halt m (List ResultGroup × Option Fault)
  | [] => pure ([], none)
  | c :: cs => do
    match ← c.measure gauges sampler with
    | .error e => pure ([], some e)
    | .ok group =>
      let (groups, error) ← measure gauges sampler cs
      pure (group :: groups, error)

/-- The environment variables that name the commit of a build, in order of preference. -/
def commitVariables : String × String := ("GIT_SHA", "GITHUB_SHA")

/-- The environment of a run under a profile. -/
def captureEnvironment (host : Host m) (profile : Profile) : m Environment := do
  let first ← host.environment commitVariables.1
  let second ← host.environment commitVariables.2
  let machine ← host.machine
  pure (.capture profile.name machine (Environment.commitOf first second))

/-- What is known at the end of a run. -/
structure Findings where
  groups : List ResultGroup
  comparison : Option Comparison
  pairs : Option (List RunPair)
  tally : Option Tally
  environment : Environment
deriving DecidableEq, Inhabited

/-- The tally of some pairs, if a candidate took part. -/
def tallyOf (pairs : List RunPair) : Option Tally :=
  if pairs.any (!·.candidate.isEmpty) then some (.ofPairs pairs) else none

/-- Puts the results of the categories and of the contest together. -/
def Findings.of (measured : List ResultGroup) (environment : Environment) :
    Option Contest.Result → Findings
  | none => ⟨measured, none, none, none, environment⟩
  | some r =>
    let groups := measured ++ r.candidate.toList
    { groups
      comparison := some (Comparison.of groups (some r.baseline))
      pairs := some r.pairs
      tally := tallyOf r.pairs
      environment :=
        { environment with candidateVersion := r.candidateVersion, baselineVersion := r.baselineVersion } }

/-- The report on what was found. -/
def Findings.report (settings : Settings) (moment : Moment) (f : Findings) : Report :=
  let heading : Report.Heading :=
    { Report.Heading.at moment.timestamp with
      candidateLabel := settings.candidateLabel
      baselineLabel := settings.baselineLabel
      environment := some f.environment }
  (Report.build f.groups f.comparison heading).withFailedRuns (f.pairs.getD [])

/-- The outcome of a run that nothing has gone wrong in so far. -/
def Findings.outcome (report : Report) (f : Findings) : Outcome where
  categoryCount := report.totals.categories
  testCount := report.totals.tests
  compared := report.totals.compared
  artifact := none
  error := none
  completed := f.groups
  comparison := f.comparison
  tally := f.tally

/-- The time now. -/
def currentMoment (host : Host m) : m Moment := do
  pure (.ofNanoseconds (← host.wall))

/-- Reports what was found. -/
def finish (host : Host m) (session : Session m) (f : Findings) : m Outcome := do
  let moment ← match session.settings.moment with
    | some moment => pure moment
    | none => currentMoment host
  let report := f.report session.settings moment
  if session.settings.persist then
    let results := report.results f.groups f.comparison f.pairs
    match ← session.sink moment.stamp report.render results.render with
    | .ok artifact => pure { f.outcome report with artifact := some artifact }
    | .error e => pure { f.outcome report with error := some e.message }
  else pure (f.outcome report)

/-- The contest of a session, if it holds one. -/
def holdContest (host : Host m) (session : Session m) : ExceptT Halt m (Option Contest.Result) :=
  match session.settings.contest with
  | none => pure none
  | some contest => contest.hold host

/-- Runs a session once. -/
def run (host : Host m) (session : Session m) : ExceptT Halt m Outcome := do
  let (completed, error) ← measure host.toGauges session.sampler session.categories
  match error with
  | some e => pure (.failed completed e)
  | none =>
    let contest ← session.holdContest host
    let environment ← (captureEnvironment host session.settings.profile : m _)
    (session.finish host (.of completed environment contest) : m _)

end Session

end Stopwatch
