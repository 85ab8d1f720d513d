import Stopwatch.Host
import Stopwatch.Regression
import Stopwatch.Report.Plain

/-!
# The gate

Results are gated against a baseline file. A file that does not exist or holds no tests is no baseline:
then the current results are saved as one, and the gate passes. A file that cannot be read or is not a
results document is a fault, so that no baseline is ever overwritten by mistake.
-/

namespace Stopwatch

/-- What the gate says. -/
structure Gate where
  success : Bool
  saved : Bool
  regressions : List Regression
  report : String
deriving DecidableEq, Inhabited

namespace Gate

variable {m : Type → Type} [Monad m]

/-- The directory of a path, unless it is the current one. -/
def directory? (path : String) : Option String := (Path.parent? path).filter (· != "")

/-- Makes the directory of a path. -/
def makeDirectory (host : Host m) (path : String) : m (Except IoError Unit) :=
  match directory? path with
  | none => pure (.ok ())
  | some directory => host.createDirectories directory

/-- Saves results as a baseline. -/
def save (host : Host m) (current : Results) (path : String) : m (Except Fault Unit) := do
  match ← makeDirectory host path with
  | .error e => pure (.error (.io e))
  | .ok _ =>
    match ← host.writeText path current.render with
    | .error e => pure (.error (.io e))
    | .ok _ => pure (.ok ())

/-- The baseline that a text holds. -/
def baselineOf (text : String) : Except Fault (Option Results) :=
  match Results.codec.read? text with
  | none => .error .json
  | some results => .ok (if results.hasTests then some results else none)

/-- Reads a baseline file. -/
def load (host : Host m) (path : String) : m (Except Fault (Option Results)) := do
  match ← host.readText path with
  | .error (.system .notFound) => pure (.ok none)
  | .error e => pure (.error (.io e))
  | .ok text => pure (baselineOf text)

/-- What is said when the current results become the baseline. -/
def passSaving (current : Results) : Gate where
  success := true
  saved := true
  regressions := []
  report := "No baseline found; saving current as baseline.\n" ++ Plain.summary current.groups

/-- What is said about the current results in the light of a baseline. -/
def judge (current baseline : Results) (threshold : Float) : Gate :=
  let regressions := Regression.detect current.groups baseline.groups threshold
  { success := regressions.isEmpty
    saved := false
    regressions
    report := Plain.summary current.groups ++
      if regressions.isEmpty then "" else "\n" ++ Plain.regressions regressions threshold }

/-- Gates the current results. -/
def check (host : Host m) (current : Results) (path : String) (threshold : Float) :
    m (Except Fault Gate) := do
  match ← load host path with
  | .error e => pure (.error e)
  | .ok (some baseline) => pure (.ok (judge current baseline threshold))
  | .ok none =>
    match ← save host current path with
    | .error e => pure (.error e)
    | .ok _ => pure (.ok (passSaving current))

end Gate

end Stopwatch
