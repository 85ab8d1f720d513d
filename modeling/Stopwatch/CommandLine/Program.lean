import Stopwatch.CommandLine.Help
import Stopwatch.Gate
import Stopwatch.Report.Plain

/-!
# The program

What the program does for a request: it acts on its host, and what it prints and its exit code are its
result.

- `Program.run`, `compare`, `gate`, `summary`: the four tasks;
- `Program.invoke`: a whole invocation, from the arguments to the exit code.
-/

namespace Stopwatch.CommandLine

/-- What a program leaves on its channels, and its exit code. -/
structure Output where
  code : Nat
  stdout : String
  stderr : String
deriving DecidableEq, Repr, Inhabited

namespace Output

/-- A line on the standard output. -/
def line (text : String) : String := text ++ "\n"

/-- The exit code of a success or a failure. -/
def codeOf (success : Bool) : Nat := if success then 0 else 1

/-- The line that tells of an error. -/
def errorLine (message : String) : String := "error: " ++ message ++ "\n"

/-- The end of a program that a fault stops after it has printed something. -/
def fault (stdout : String) (e : Fault) : Output := ⟨e.exitCode, stdout, errorLine e.message⟩

/-- The end of a program that is halted after it has printed something. -/
def halted (stdout : String) (h : Halt) : Output := ⟨h.exitCode, stdout, line h.message⟩

end Output

namespace Program

open Output (line codeOf errorLine)

variable {m : Type → Type} [Monad m]

/-- Finds out what the host offers for a measurement. -/
def probe (gauges : Gauges m) : ExceptT Halt m Capabilities := do
  let first ← gauges.monotonic
  let second ← gauges.monotonic
  let status ← gauges.status
  let snapshot ← Sampler.figures? status
  pure ⟨decide (first ≤ second), snapshot.isSome⟩

/-- A sampler that uses what the host offers. -/
def makeSampler (gauges : Gauges m) : ExceptT Halt m Sampler := do
  let capabilities ← probe gauges
  (Sampler.start gauges capabilities : m _)

/-! ### Running the built-in categories -/

/-- The contest that a request asks for. -/
def contestOf (request : RunRequest) (baseline : String) (files : List String) : Contest where
  candidate := request.candidateCommand.map fun c => ⟨request.candidateLabel, c, []⟩
  baseline := ⟨request.baselineLabel, baseline, []⟩
  settings := request.settings
  files

/-- The contest that a request asks for, with its files found. Without a baseline there is none, and
nothing is looked for. -/
def resolveContest (host : Host m) (request : RunRequest) : m (Except Fault (Option Contest)) := do
  match request.baselineCommand with
  | none => pure (.ok none)
  | some baseline =>
    match ← request.workloads.resolve host with
    | .error e => pure (.error e)
    | .ok files => pure (.ok (some (contestOf request baseline files)))

/-- The line about a category that takes part. -/
def registeredLine (c : Category m) : String :=
  line ("Registered " ++ c.name ++ " (" ++ toString c.workloads.length ++ " workloads)")

/-- What is printed about an outcome. -/
def outcomeText (o : Session.Outcome) (candidateLabel baselineLabel : String) : String :=
  (match o.artifact with
    | some a =>
      line ("Report saved: " ++ a.report) ++ line ("JSON results saved: " ++ a.results ++ "\n")
    | none => line (Plain.summary o.completed)) ++
  (match o.tally with
    | some t => line (t.render candidateLabel baselineLabel)
    | none => "") ++
  line (if o.success then "=== Benchmark Suite Complete ===" else "=== Benchmark Suite Failed ===") ++
  line ("Total categories: " ++ toString o.categoryCount) ++
  line ("Total tests: " ++ toString o.testCount) ++
  (if o.comparison.isSome then line ("Compared tests: " ++ toString o.compared) else "")

/-- The session of a request. -/
def sessionOf (host : Host m) (common : Common) (request : RunRequest) (contest : Option Contest)
    (sampler : Sampler) : Session m where
  settings :=
    { profile := common.plan.profile
      candidateLabel := request.candidateLabel
      baselineLabel := request.baselineLabel
      contest
      persist := request.persist
      moment := none }
  sampler
  sink := Sink.directory host request.resultsDirectory
  categories := Builtin.categories host common.plan request.categories

/-- The line that the task starts with. -/
def title : String := line "=== Runtime Performance Suite ===\n"

/-- Measures the built-in categories, holds a contest if there is a baseline, and reports. -/
def run (host : Host m) (common : Common) (request : RunRequest) : m Output := do
  match ← resolveContest host request with
  | .error e => pure (.fault "" e)
  | .ok contest =>
    match ← (makeSampler host.toGauges).run with
    | .error h => pure (.halted title h)
    | .ok sampler =>
      let session := sessionOf host common request contest sampler
      let head := title ++ String.join (session.categories.map registeredLine) ++ line ""
      match ← (session.run host).run with
      | .error h => pure (.halted head h)
      | .ok outcome =>
        pure {
          code := codeOf outcome.success
          stdout := head ++ outcomeText outcome request.candidateLabel request.baselineLabel
          stderr := outcome.error.elim "" errorLine }

/-! ### Comparing engines -/

/-- The report on the runs of two engines. -/
def comparisonReport (candidate baseline : LocatedEngine) (pairs : List RunPair)
    (environment : Environment) (moment : Moment) : Report × Results :=
  let groups := [RunPair.candidateGroup pairs]
  let comparison := Comparison.of groups (some [RunPair.baselineGroup pairs])
  let heading : Report.Heading :=
    { Report.Heading.at moment.timestamp with
      title := "Process Comparison Report"
      candidateLabel := candidate.label
      baselineLabel := baseline.label
      environment := some environment }
  let report := (Report.build groups (some comparison) heading).withFailedRuns pairs
  (report, report.results groups (some comparison) (some pairs))

/-- What is printed about the engines. -/
def enginesText (candidate baseline : LocatedEngine) : String :=
  line (candidate.label ++ ": " ++ candidate.path) ++
    line (baseline.label ++ ": " ++ baseline.path ++ "\n")

/-- What is printed about the engines and their runs. -/
def comparisonText (candidate baseline : LocatedEngine) (tally : Tally) : String :=
  enginesText candidate baseline ++ line (tally.render candidate.label baseline.label)

/-- What is printed about artifacts. -/
def artifactText (a : Artifact) : String :=
  line ("Report saved: " ++ a.report) ++ line ("JSON results saved: " ++ a.results)

/-- Reports on the runs of two engines. -/
def reportPairs (host : Host m) (common : Common) (resultsDirectory : String)
    (candidate baseline : LocatedEngine) (pairs : List RunPair) : m Output := do
  let tally := Tally.ofPairs pairs
  let environment ← Session.captureEnvironment host common.plan.profile
  let candidateVersion ← candidate.version host
  let baselineVersion ← baseline.version host
  let moment ← Session.currentMoment host
  let (report, results) := comparisonReport candidate baseline pairs
    { environment with candidateVersion, baselineVersion } moment
  let text := comparisonText candidate baseline tally
  match ← Sink.directory host resultsDirectory moment.stamp report.render results.render with
  | .error e => pure (.fault text e)
  | .ok artifact => pure ⟨codeOf (tally.failed == 0), text ++ artifactText artifact, ""⟩

/-- Runs the files of a batch under two engines that were found, and reports. -/
def compareLocated (host : Host m) (common : Common) (resultsDirectory : String) (batch : Batch)
    (files : List String) (candidate baseline : LocatedEngine) : m Output := do
  match ← (batch.compareAll host files).run with
  | .error h => pure (.halted (enginesText candidate baseline) h)
  | .ok pairs => reportPairs host common resultsDirectory candidate baseline pairs

/-- The fault of a request that names no files. -/
def noFiles : Fault :=
  .config "workload" "give --workload, --suite, or --workload-dir with at least one file"

/-- Runs workload files under two engines. -/
def compare (host : Host m) (common : Common) (request : CompareRequest) : m Output := do
  match ← request.workloads.resolve host with
  | .error e => pure (.fault "" e)
  | .ok files =>
    if files.isEmpty then pure (.fault "" noFiles)
    else match Batch.make request.candidate request.baseline request.settings with
      | .error e => pure (.fault "" e)
      | .ok batch =>
        match ← batch.preflight host with
        | .error e => pure (.fault "" e)
        | .ok (candidate, baseline) =>
          compareLocated host common request.resultsDirectory batch files candidate baseline

/-! ### The gate -/

/-- The session that measures for the gate. It keeps nothing. -/
def gateSession (host : Host m) (common : Common) (request : GateRequest) (sampler : Sampler) :
    Session m where
  settings := { Session.Settings.standard with profile := common.plan.profile, persist := false }
  sampler
  sink := Sink.keeping fun _ _ _ => pure ()
  categories := Builtin.categories host common.plan request.categories

/-- Prints what the gate says, also to a file if there is to be one. -/
def report (host : Host m) (path : Option String) (gate : Gate) : m Output := do
  match path with
  | none => pure ⟨codeOf gate.success, gate.report, ""⟩
  | some path =>
    match ← host.writeText path gate.report with
    | .error e => pure (.fault gate.report (.io e))
    | .ok _ => pure ⟨codeOf gate.success, gate.report, ""⟩

/-- A threshold is a number that is not negative. -/
def isThreshold (threshold : Float) : Bool := Decimal.isFinite threshold && decide (0.0 ≤ threshold)

/-- Gates what was measured against a baseline file. -/
def gateOutcome (host : Host m) (common : Common) (request : GateRequest)
    (outcome : Session.Outcome) : m Output := do
  match outcome.error with
  | some e => pure ⟨1, line (Plain.summary outcome.completed), errorLine e⟩
  | none =>
    let moment ← Session.currentMoment host
    let environment ← Session.captureEnvironment host common.plan.profile
    let current : Results := ⟨moment.timestamp, outcome.completed, none, none, some environment⟩
    match ← Gate.check host current request.baseline request.threshold with
    | .error e => pure (.fault "" e)
    | .ok gate => report host request.report gate

/-- Measures the built-in categories and gates them against a baseline file. -/
def gate (host : Host m) (common : Common) (request : GateRequest) : m Output := do
  if isThreshold request.threshold then
    match ← (makeSampler host.toGauges).run with
    | .error h => pure (.halted "" h)
    | .ok sampler =>
      match ← ((gateSession host common request sampler).run host).run with
      | .error h => pure (.halted "" h)
      | .ok outcome => gateOutcome host common request outcome
  else pure (.fault "" (.config "threshold" "must be a non-negative number"))

/-! ### Summaries -/

/-- What is printed about a results document. -/
def summaryText (results : Results) : String :=
  line ("Results from " ++ results.timestamp) ++ Plain.summary results.groups ++
    (match results.comparison with
      | some c => line ("\nCompared tests: " ++ toString c.totals.compared)
      | none => "") ++
    (match results.processRuns with
      | some pairs =>
        let labels := Session.Settings.standard
        line ("\n" ++ (Tally.ofPairs pairs).render labels.candidateLabel labels.baselineLabel)
      | none => "")

/-- Prints the summary of a results file. -/
def summary (host : Host m) (path : String) : m Output := do
  match ← host.readText path with
  | .error e => pure (.fault "" (.io e))
  | .ok text =>
    match Results.codec.read? text with
    | none => pure (.fault "" .json)
    | some results => pure ⟨0, summaryText results, ""⟩

/-! ### Invocations -/

/-- Carries out a request. -/
def perform (host : Host m) (request : Request) : m Output :=
  match request.task with
  | .run r => run host request.common r
  | .compare r => compare host request.common r
  | .gate r => gate host request.common r
  | .summary path => summary host path

/-- What is printed in place of carrying out a request. -/
def stopped (environment : String → Option String) : Stop → Output
  | .help level isLong => ⟨0, Help.text environment level isLong, ""⟩
  | .version => ⟨0, line (programName ++ " " ++ Environment.programVersion), ""⟩
  | .mistake m => ⟨2, "", errorLine m.message ++ "\nFor more information, try '--help'.\n"⟩

/-- The environment variables that options fall back to, as the host has them. -/
def readVariables (host : Host m) : List String → m (List (String × String))
  | [] => pure []
  | name :: names => do
    let value ← host.environment name
    let rest ← readVariables host names
    pure ((value.toList.map fun v => (name, v)) ++ rest)

/-- All environment variables that options fall back to. -/
def optionVariables : List String :=
  (commonSwitches ++ CommandName.all.flatMap CommandName.switches).filterMap Switch.fallback

/-- A whole invocation with its arguments. -/
def invoke (host : Host m) (arguments : List String) : m Output := do
  let bindings ← readVariables host optionVariables
  let environment (name : String) : Option String := bindings.lookup name
  match Request.read environment arguments with
  | .error stop => pure (stopped environment stop)
  | .ok request => perform host request

end Program

end Stopwatch.CommandLine
