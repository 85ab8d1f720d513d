import Stopwatch.Engine.Basic
import Stopwatch.Suite

/-!
# Finding workload files

Workload files are named one by one, listed in a suite, or discovered below a directory. Of what a walk
through the directory comes across, the regular files count, and of these the ones with a fitting end of
their names, which is compared without regard to the case of ASCII letters.
-/

namespace Stopwatch

variable {m : Type → Type} [Monad m]

namespace Suite

/-- Reads a suite file; relative paths start at the directory of the file. -/
def load (host : Host m) (path : String) : m (Except Fault Suite) := do
  match ← host.readText path with
  | .error e => pure (.error (.suiteParse path e.message))
  | .ok text => pure (parse text ((Path.parent? path).getD ""))

end Suite

namespace Discovery

/-- Equality of texts that takes upper and lower case ASCII letters for the same. -/
def sameIgnoringCase (a b : String) : Bool :=
  a.toList.map Char.toLower == b.toList.map Char.toLower

/-- Whether a file name ends in one of some extensions. -/
def hasExtension (extensions : List String) (path : String) : Bool :=
  (Path.extension? path).any fun e => extensions.any (sameIgnoringCase e)

/-- Whether an entry is a regular file. -/
def isRegular (entry : Entry) : Bool := entry.kind = .file

/-- The paths of the regular files among what a walk came across. What could not be looked at does not
count. -/
def regularFiles (found : List (Except IoError Entry)) : List String :=
  ((found.filterMap Except.toOption).filter isRegular).map Entry.path

/-- The paths with one of some extensions, in the order of paths. -/
def select (extensions paths : List String) : List String :=
  (paths.filter (hasExtension extensions)).mergeSort fun a b => Path.compare a b != .gt

/-- The workload files below a directory. -/
def discover (host : Host m) (directory : String) (extensions : List String) :
    m (Except Fault (List String)) := do
  if ← host.isDirectory directory then
    let found ← host.walk directory
    pure (.ok (select extensions (regularFiles found)))
  else pure (.error (.config "workload-dir" (directory ++ " is not a directory")))

end Discovery

/-- Where workload files come from. -/
structure WorkloadSource where
  files : List String
  suite : Option String
  directory : Option String
  extensions : List String
deriving DecidableEq, Repr, Inhabited

namespace WorkloadSource

/-- The extensions that are looked for unless others are given. -/
def defaultExtensions : List String := ["js"]

/-- The files of the suite, if there is one. -/
def suiteFiles (host : Host m) (source : WorkloadSource) : m (Except Fault (List String)) := do
  match source.suite with
  | none => pure (.ok [])
  | some path =>
    match ← Suite.load host path with
    | .error e => pure (.error e)
    | .ok suite => pure (.ok suite.files)

/-- The files below the directory, if there is one. -/
def foundFiles (host : Host m) (source : WorkloadSource) : m (Except Fault (List String)) := do
  match source.directory with
  | none => pure (.ok [])
  | some directory =>
    Discovery.discover host directory
      (if source.extensions.isEmpty then defaultExtensions else source.extensions)

/-- Named files first, then those of the suite, then those below the directory. -/
def resolve (host : Host m) (source : WorkloadSource) : m (Except Fault (List String)) := do
  match ← suiteFiles host source with
  | .error e => pure (.error e)
  | .ok listed =>
    match ← foundFiles host source with
    | .error e => pure (.error e)
    | .ok found => pure (.ok (source.files ++ listed ++ found))

end WorkloadSource

end Stopwatch
