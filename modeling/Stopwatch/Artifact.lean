import Stopwatch.Calendar
import Stopwatch.Host

/-!
# Artifacts

The report page and the results document of a run are kept under a stamp, either both or none of them.

- `Sink`: where artifacts go;
- `Sink.directory`: two files in a directory. If the second cannot be written, the first is removed.
- `Sink.keeping`: artifacts that are not written anywhere.
-/

namespace Stopwatch

/-- Where the two artifacts of a run were put. -/
structure Artifact where
  report : String
  results : String
deriving DecidableEq, Repr, Inhabited

namespace Artifact

def reportName (stamp : String) : String := "report_" ++ stamp ++ ".html"

def resultsName (stamp : String) : String := "results_" ++ stamp ++ ".json"

/-- The artifacts of a stamp in a directory. -/
def within (directory stamp : String) : Artifact :=
  ⟨Path.join directory (reportName stamp), Path.join directory (resultsName stamp)⟩

end Artifact

/-- A place for artifacts: it takes a stamp, a page and a document. -/
abbrev Sink (m : Type → Type) := String → String → String → m (Except Fault Artifact)

namespace Sink

variable {m : Type → Type} [Monad m]

/-- Artifacts as files in a directory, which is made if it does not exist. -/
def directory (host : Host m) (path : String) : Sink m := fun stamp page document => do
  match ← host.createDirectories path with
  | .error e => pure (.error (.io e))
  | .ok _ =>
    let artifact := Artifact.within path stamp
    match ← host.writeText artifact.report page with
    | .error e => pure (.error (.io e))
    | .ok _ =>
      match ← host.writeText artifact.results document with
      | .error e =>
        let _ ← host.remove artifact.report
        pure (.error (.io e))
      | .ok _ => pure (.ok artifact)

/-- Artifacts that are handed to an action instead of being written. -/
def keeping (keep : String → String → String → m Unit) : Sink m := fun stamp page document => do
  keep stamp page document
  pure (.ok ⟨Artifact.reportName stamp, Artifact.resultsName stamp⟩)

end Sink

end Stopwatch
