import Stopwatch.CommandLine.Arguments
import Stopwatch.Discovery
import Stopwatch.Engine.Batch
import Stopwatch.Regression
import Stopwatch.Session
import Stopwatch.Span

/-!
# Requests

What a user can ask for. A command line is read level by level: the options that every command knows may
stand in front of the command or after it, and the environment stands in for most options.

- `CommandName`: the commands, with their options;
- `Request.read`: the request that a command line and an environment make;
- `RunRequest.standard`: the request that is made without a command. It hears the environment only about
  the results directory and the engines.
-/

namespace Stopwatch.CommandLine

/-! ### Values -/

def readProfile : String → Except Refusal Profile := Value.oneOf Profile.name Profile.all

def readCategory : String → Except Refusal Builtin.Choice :=
  Value.oneOf Builtin.Choice.name Builtin.Choice.choices

/-- What is said about a category. -/
def categoryAbout : Builtin.Choice → String
  | .all => "Every built-in category"
  | .basicTypes => "Arithmetic, string, and boolean primitives"
  | .collections => "Vec, map, set, and JSON operations"
  | .concurrency => "Sequential vs rayon-parallel task execution"

/-- How log lines are written. -/
inductive LogFormat where
  | pretty
  | json
deriving DecidableEq, Repr, Inhabited

namespace LogFormat

def all : List LogFormat := [pretty, json]

def name : LogFormat → String
  | pretty => "pretty"
  | json => "json"

/-- What is said about a format. -/
def about : LogFormat → String
  | pretty => "Human-readable compact lines"
  | json => "One JSON object per event"

end LogFormat

def readLogFormat : String → Except Refusal LogFormat := Value.oneOf LogFormat.name LogFormat.all

/-- The log level that a count of the verbosity option stands for. -/
def logLevel : Nat → String
  | 0 => "warn"
  | 1 => "info"
  | 2 => "debug"
  | _ => "trace"

/-- The value of an option as it is read, if it was given one that makes sense. -/
def Given.read? {α : Type} (given : Given) (name : String) (read : String → Except Refusal α) : Option α :=
  (given.value? name).bind fun text => (read text).toOption

/-! ### Options -/

def defaultResultsDirectory : String := "results"

/-- The options that every command knows. -/
def commonSwitches : List Switch :=
  [ ((Switch.single "profile" "PROFILE" "" readProfile).among (Profile.all.map fun p => (p.name, ""))).orElse
      Plan.standard.profile.name |>.orVariable "PROFILE",
    ((Switch.single "seed" "SEED" "Seed for generated workload inputs" Value.word).orElse
      (toString Plan.standard.seed)).orVariable "SEED",
    .bare "verbose" "More log output on stderr (-v info, -vv debug, -vvv trace)" (some 'v') .counter,
    ((Switch.single "log-format" "LOG_FORMAT" "" readLogFormat).among
      (LogFormat.all.map fun f => (f.name, f.about))).orElse LogFormat.pretty.name
      |>.orVariable "LOG_FORMAT" ]

/-- The options that say where workload files come from. -/
def workloadSwitches : List Switch :=
  [ (Switch.single "workload" "FILE" "Workload file to hand to the runtimes. Repeatable"
      Value.path).repeatedly,
    Switch.single "suite" "FILE" "Suite file: a name line followed by one workload path per line" Value.path,
    Switch.single "workload-dir" "DIR" "Directory searched recursively for workload files" Value.path,
    (Switch.single "extension" "EXT" "File extensions picked up by --workload-dir (default: js)"
      Value.text).repeatedly ]

/-- The options that say how engines are run. -/
def processSwitches : List Switch :=
  [ (Switch.single "repeat" "REPEAT" "Runs per runtime per workload file" Value.count).orElse
      (toString RunSettings.standard.repeats),
    Switch.single "timeout-secs" "SECS" "Kill a runtime process after this many seconds" Value.word ]

def resultsSwitch : Switch :=
  ((Switch.single "results-dir" "DIR" "Directory for report_<stamp>.html and results_<stamp>.json"
    Value.path).orElse defaultResultsDirectory).orVariable "RESULTS_DIR"

def categorySwitch (about : String) : Switch :=
  ((Switch.single "category" "CATEGORY" about readCategory).among
    (Builtin.Choice.choices.map fun c => (c.name, categoryAbout c))).repeatedly

def candidateSwitch (about : String) : Switch :=
  (Switch.single "candidate-runtime" "CMD" about Value.text).orVariable "CANDIDATE_RUNTIME"

def baselineSwitch (about : String) : Switch :=
  (Switch.single "baseline-runtime" "CMD" about Value.text).orVariable "BASELINE_RUNTIME"

def candidateLabelSwitch : Switch :=
  (Switch.single "candidate-label" "CANDIDATE_LABEL" "" Value.text).orElse
    Session.Settings.standard.candidateLabel

def baselineLabelSwitch : Switch :=
  (Switch.single "baseline-label" "BASELINE_LABEL" "" Value.text).orElse
    Session.Settings.standard.baselineLabel

/-! ### Commands -/

/-- The name of the program. -/
def programName : String := "runtime-bench"

inductive CommandName where
  | run
  | compare
  | ci
  | summary
  | help
deriving DecidableEq, Repr, Inhabited

namespace CommandName

def all : List CommandName := [run, compare, ci, summary, help]

def text : CommandName → String
  | run => "run"
  | compare => "compare"
  | ci => "ci"
  | summary => "summary"
  | help => "help"

/-- What a command does. -/
def about : CommandName → String
  | run =>
    "Run the built-in categories, optionally compare against a baseline runtime, and write the HTML + " ++
      "JSON report (default)"
  | compare => "Run workload files under two runtimes and compare wall-clock times"
  | ci => "Gate the built-in categories against a saved baseline"
  | summary => "Print the console summary of a saved results JSON file"
  | help => "Print this message or the help of the given subcommand(s)"

/-- The options of a command. -/
def switches : CommandName → List Switch
  | run =>
    [ resultsSwitch, categorySwitch "Built-in categories to run. Repeatable; defaults to all",
      candidateLabelSwitch.orVariable "CANDIDATE_LABEL", baselineLabelSwitch.orVariable "BASELINE_LABEL",
      baselineSwitch "Runtime executable to compare against (name on PATH or a path)",
      candidateSwitch "Also time whole-process runs of the workload files under this runtime" ] ++
      workloadSwitches ++ processSwitches ++
      [.bare "no-persist" "Print the console summary instead of writing artifacts" none .flag]
  | compare =>
    [ (candidateSwitch "").demanded, (baselineSwitch "").demanded, candidateLabelSwitch,
      baselineLabelSwitch ] ++ workloadSwitches ++ processSwitches ++ [resultsSwitch]
  | ci =>
    [ ((Switch.single "baseline" "FILE" "" Value.path).orVariable "BASELINE").demanded,
      (Switch.single "threshold" "THRESHOLD"
        "Allowed slowdown in percent before a test counts as regressed" Value.number).orElse
        (Decimal.fixed 0 Regression.defaultThreshold),
      Switch.single "report" "FILE" "Also write the text report here" Value.path, categorySwitch "" ]
  | summary => []
  | help => []

/-- The names of the words that a command takes. -/
def words : CommandName → List String
  | summary => ["FILE"]
  | _ => []

/-- The level of a command. -/
def level (name : CommandName) : Level where
  name := programName ++ " " ++ name.text
  about := name.about
  switches := name.switches ++ commonSwitches
  ownSwitches := name.switches.length
  tellsVersion := false
  words := name.words
  commands := []

end CommandName

/-- The level in front of a command. -/
def topLevel : Level where
  name := programName
  about := "Workload timing and cross-runtime comparison reports"
  switches := commonSwitches
  ownSwitches := commonSwitches.length
  tellsVersion := true
  words := []
  commands := CommandName.all.map fun c => (c.text, c.about, c.switches.map Switch.name)

/-! ### Requests -/

/-- What holds for every command. -/
structure Common where
  plan : Plan
  verbosity : Nat
  logFormat : LogFormat
deriving DecidableEq, Repr, Inhabited

/-- Measure the built-in categories, perhaps hold a contest, and report. -/
structure RunRequest where
  resultsDirectory : String
  categories : List Builtin.Choice
  candidateLabel : String
  baselineLabel : String
  baselineCommand : Option String
  candidateCommand : Option String
  workloads : WorkloadSource
  settings : RunSettings
  persist : Bool
deriving DecidableEq, Repr, Inhabited

/-- Run workload files under two engines. -/
structure CompareRequest where
  candidate : Engine
  baseline : Engine
  workloads : WorkloadSource
  settings : RunSettings
  resultsDirectory : String
deriving DecidableEq, Repr, Inhabited

/-- Gate the built-in categories against a baseline file. -/
structure GateRequest where
  baseline : String
  threshold : Float
  report : Option String
  categories : List Builtin.Choice
deriving Inhabited

inductive Task where
  | run (request : RunRequest)
  | compare (request : CompareRequest)
  | gate (request : GateRequest)
  | summary (path : String)
deriving Inhabited

structure Request where
  common : Common
  task : Task
deriving Inhabited

/-- Where workload files come from, as options say it. -/
def workloadsOf (given : Given) : WorkloadSource where
  files := given.values "workload"
  suite := given.value? "suite"
  directory := given.value? "workload-dir"
  extensions := given.values "extension"

/-- How engines are run, as options say it. -/
def settingsOf (given : Given) : RunSettings where
  repeats := (given.read? "repeat" Value.count).getD RunSettings.standard.repeats
  limit := (given.read? "timeout-secs" Value.word).map (· * Span.second)

def categoriesOf (given : Given) : List Builtin.Choice :=
  (given.values "category").filterMap fun text => (readCategory text).toOption

namespace RunRequest

/-- The request that options make. -/
def ofGiven (given : Given) : RunRequest where
  resultsDirectory := (given.value? "results-dir").getD defaultResultsDirectory
  categories := categoriesOf given
  candidateLabel := (given.value? "candidate-label").getD Session.Settings.standard.candidateLabel
  baselineLabel := (given.value? "baseline-label").getD Session.Settings.standard.baselineLabel
  baselineCommand := given.value? "baseline-runtime"
  candidateCommand := given.value? "candidate-runtime"
  workloads := workloadsOf given
  settings := settingsOf given
  persist := (given.values "no-persist").isEmpty

/-- The request that is made without a command. -/
def standard (environment : String → Option String) : RunRequest :=
  { ofGiven [] with
    resultsDirectory := (environment (Switch.variableOf "RESULTS_DIR")).getD defaultResultsDirectory
    baselineCommand := environment (Switch.variableOf "BASELINE_RUNTIME")
    candidateCommand := environment (Switch.variableOf "CANDIDATE_RUNTIME") }

end RunRequest

/-- The request of the comparison that options make. -/
def CompareRequest.ofGiven (given : Given) : CompareRequest where
  candidate := ⟨(given.value? "candidate-label").getD Session.Settings.standard.candidateLabel,
    (given.value? "candidate-runtime").getD "", []⟩
  baseline := ⟨(given.value? "baseline-label").getD Session.Settings.standard.baselineLabel,
    (given.value? "baseline-runtime").getD "", []⟩
  workloads := workloadsOf given
  settings := settingsOf given
  resultsDirectory := (given.value? "results-dir").getD defaultResultsDirectory

/-- The request to the gate that options make. -/
def GateRequest.ofGiven (given : Given) : GateRequest where
  baseline := (given.value? "baseline").getD ""
  threshold := (given.read? "threshold" Value.number).getD Regression.defaultThreshold
  report := given.value? "report"
  categories := categoriesOf given

namespace Common

/-- What holds for every command. Options after the command come first in `given`. -/
def ofGiven (given : Given) (verbosity : Nat) : Common where
  plan :=
    ⟨(given.read? "profile" readProfile).getD Plan.standard.profile,
      (given.read? "seed" Value.word).getD Plan.standard.seed⟩
  verbosity
  logFormat := (given.read? "log-format" readLogFormat).getD .pretty

end Common

/-- How often the verbosity option was given: after the command if it was given there. -/
def verbosityOf (inner outer : Given) : Nat :=
  match (inner.values "verbose").length with
  | 0 => (outer.values "verbose").length
  | n => n

/-- The task of a command. -/
def taskOf (name : CommandName) (given : Given) (words : List String) : Task :=
  match name with
  | .run => .run (.ofGiven given)
  | .compare => .compare (.ofGiven given)
  | .ci => .gate (.ofGiven given)
  | .summary => .summary (words.headD "")
  | .help => .summary ""

/-- How the command for help is used. -/
def helpUsage : String := CommandName.help.level.name ++ " [COMMAND]..."

/-- The command for help takes the name of a command, and no command has commands of its own. -/
def readHelp : List String → Stop
  | [] => .help topLevel.name true
  | word :: rest =>
    match CommandName.all.find? (·.text = word), rest with
    | none, _ => .mistake (.unknownCommand word [] topLevel.generalUsage)
    | some command, [] => .help command.level.name true
    | some .help, other :: _ => .mistake (.unknownCommand other [] helpUsage)
    | some command, other :: _ => .mistake (.unknownCommand other [] command.level.generalUsage)

/-- The request that a command line makes. -/
def Request.read (environment : String → Option String) (arguments : List String) :
    Except Stop Request := do
  let outer ← topLevel.scan arguments
  match outer.next with
  | none =>
    let given ← topLevel.settle environment outer
    return ⟨.ofGiven given (verbosityOf [] outer.given), .run (.standard environment)⟩
  | some (word, rest) =>
    match CommandName.all.find? (·.text = word) with
    | none => Level.refuse (topLevel.noPlace word false)
    | some .help => .error (readHelp rest)
    | some name =>
      let inner ← name.level.scan rest
      let given ← name.level.settle environment inner
      let outerGiven ← topLevel.settle environment outer
      let ranked := inner.given ++ outer.given ++ given ++ outerGiven
      return ⟨.ofGiven ranked (verbosityOf inner.given outer.given), taskOf name given inner.words⟩

end Stopwatch.CommandLine
