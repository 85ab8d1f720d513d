import Stopwatch.Halt
import Stopwatch.Host
import Stopwatch.Span

/-!
# Engines

An engine is an executable that runs workload files. It is looked for at some given places first; then
its command is taken as it is if it is a path, and else looked up in the directories of the search
variable. The first place that holds a regular file counts.

- `Engine.places`: where an engine is looked for, in order;
- `Engine.locate`: the engine that is found, or all the places where there was none;
- `Limit.isBeyondClock`: whether a time limit ends too late. The limit of a process is a span that begins at
  its start, and it ends at a moment that the clock has to be able to show; a limit that ends later cannot
  be kept, and the program ends as soon as it has to look at that moment.
-/

namespace Stopwatch

/-- An engine to look for. -/
structure Engine where
  /-- Its name in reports. -/
  label : String
  command : String
  /-- Where to look before the command is looked at. -/
  searchPaths : List String
deriving DecidableEq, Repr, Inhabited

/-- An engine that was found. -/
structure LocatedEngine where
  label : String
  path : String
deriving DecidableEq, Repr, Inhabited

namespace Engine

/-- The environment variable that lists directories with executables, separated by colons. -/
def searchVariable : String := "PATH"

/-- Splits at every colon; `current` holds the entry being read, last character first. -/
def splitColons (current : List Char) : List Char → List String
  | [] => [String.ofList current.reverse]
  | c :: cs =>
    if c = ':' then String.ofList current.reverse :: splitColons [] cs else splitColons (c :: current) cs

/-- Whether a command is a path and not a bare name. -/
def isPath (command : String) : Bool :=
  Path.isAbsolute command || decide (1 < (Path.components command).length)

/-- All places where an engine may be, given the value of the search variable. -/
def places (engine : Engine) (search : Option String) : List String :=
  engine.searchPaths ++
    if isPath engine.command then [engine.command]
    else
      match search with
      | none => []
      | some directories =>
        (splitColons [] directories.toList).map fun d => Path.join d engine.command

variable {m : Type → Type} [Monad m]

/-- The first path of a list that leads to a regular file. -/
def firstFile (host : Host m) : List String → m (Option String)
  | [] => pure none
  | path :: paths => do
    if ← host.isFile path then pure (some path) else firstFile host paths

/-- Looks for an engine. -/
def locate (host : Host m) (engine : Engine) : m (Except Fault LocatedEngine) := do
  let places := engine.places (← host.environment searchVariable)
  match ← firstFile host places with
  | none => pure (.error (.runtimeNotFound engine.label places))
  | some path =>
    let canonical ← host.canonical? path
    pure (.ok ⟨engine.label, canonical.getD path⟩)

end Engine

/-! ### Time limits -/

namespace Limit

/-- How many seconds the clock can show, counted from the start of the system. -/
def clockSeconds : Nat := 9223372036854775808

/-- Whether a span that begins at some moment ends at one that the clock cannot show. -/
def isBeyondClock (start span : Nat) : Bool := decide (clockSeconds * Span.second ≤ start + span)

end Limit

end Stopwatch
