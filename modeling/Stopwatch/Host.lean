import Stopwatch.Fault
import Stopwatch.Results.Document

/-!
# Hosts

Everything that the program asks of the system that it runs on, as one record of actions in some monad
`m`. The program is written against this record alone, so the same definitions run on a real system and
on a simulated one, and statements about them can be made for every host.

- `Gauges`: time and memory, what a measurement reads;
- `Host`: those, the file system, the environment and the start of processes;
- `Host.mapM`: a host in a larger monad.
-/

namespace Stopwatch

/-- What a measurement reads. -/
structure Gauges (m : Type → Type) where
  /-- Nanoseconds on a clock that never goes back. -/
  monotonic : m Nat
  /-- Nanoseconds since the start of 1970; the wall clock may be set forwards and backwards. -/
  wall : m Nat
  /-- The status text of this process, if the system has one. -/
  status : m (Option String)

/-- A request to start a process. Its input is empty, and it leads a process group of its own. -/
structure Invocation where
  program : String
  arguments : List String
  /-- Where the process starts; `none` for where this one runs. -/
  directory : Option String
  /-- After so many nanoseconds the process is killed, together with its group. -/
  limit : Option Nat
deriving DecidableEq, Repr, Inhabited

/-- Whether a text has a character with the code zero, which nothing that the system takes as a word can
have. -/
def hasZero (text : String) : Bool := text.toList.any (· = '\x00')

/-- Whether all that a process is started with can be handed to it. -/
def Invocation.isClean (call : Invocation) : Bool :=
  !(call.program :: call.arguments ++ call.directory.toList).any hasZero

/-- How a process ended. -/
inductive ExitStatus where
  | code (n : Nat)
  | signal
deriving DecidableEq, Repr, Inhabited

namespace ExitStatus

/-- Only the exit code zero is a success. -/
def isSuccess (s : ExitStatus) : Bool := s == .code 0

end ExitStatus

/-- A process that has ended. -/
structure Finished where
  status : ExitStatus
  /-- Whether it was killed because its time was over. -/
  timedOut : Bool
  /-- Nanoseconds from the start to the end. -/
  elapsed : Nat
  stdout : ByteArray
  stderr : ByteArray
deriving BEq, Inhabited

/-- Why a process has no end that is known. -/
inductive ProcessError where
  /-- It could not be started. -/
  | notStarted (e : IoError)
  /-- It was started, but its end could not be waited for. -/
  | notAwaited (e : IoError)
deriving DecidableEq, Repr, Inhabited

/-- What stands at a path, with links followed. -/
inductive EntryKind where
  | file
  | directory
  /-- A device, a pipe and the like. -/
  | other
deriving DecidableEq, Repr, Inhabited

/-- What a walk through a directory comes across. -/
structure Entry where
  path : String
  kind : EntryKind
deriving DecidableEq, Repr, Inhabited

structure Host (m : Type → Type) extends Gauges m where
  /-- Carries out a computation that starts from any word. -/
  consume : (UInt64 → UInt64) → m Unit
  machine : m Environment.Machine
  /-- The value of an environment variable. -/
  environment : String → m (Option String)
  read : String → m (Except IoError ByteArray)
  /-- Replaces the content of a file, which is made if it does not exist. -/
  write : String → ByteArray → m (Except IoError Unit)
  remove : String → m (Except IoError Unit)
  /-- Makes a directory and those above it, as far as they do not exist. -/
  createDirectories : String → m (Except IoError Unit)
  /-- Whether a path leads to a regular file; links are followed. -/
  isFile : String → m Bool
  isDirectory : String → m Bool
  /-- The absolute path without links and dots of what a path leads to. -/
  canonical? : String → m (Option String)
  /-- Walks through a directory: the directory itself and all that is below it at any depth, in any order. An
  error stands for what could not be looked at. -/
  walk : String → m (List (Except IoError Entry))
  /-- Starts a process and waits for its end. -/
  execute : Invocation → m (Except ProcessError Finished)

/-- The same host seen from another monad. -/
def Host.mapM {m n : Type → Type} (lift : ∀ {α : Type}, m α → n α) (host : Host m) : Host n where
  monotonic := lift host.monotonic
  wall := lift host.wall
  status := lift host.status
  consume work := lift (host.consume work)
  machine := lift host.machine
  environment name := lift (host.environment name)
  read path := lift (host.read path)
  write path bytes := lift (host.write path bytes)
  remove path := lift (host.remove path)
  createDirectories path := lift (host.createDirectories path)
  isFile path := lift (host.isFile path)
  isDirectory path := lift (host.isDirectory path)
  canonical? path := lift (host.canonical? path)
  walk path := lift (host.walk path)
  execute call := lift (host.execute call)

namespace Host

variable {m : Type → Type} [Monad m]

/-- Reads a file that holds text. -/
def readText (host : Host m) (path : String) : m (Except IoError String) := do
  match ← host.read path with
  | .error e => pure (.error e)
  | .ok bytes => pure ((String.fromUTF8? bytes).elim (.error .notText) .ok)

/-- Writes a text to a file. -/
def writeText (host : Host m) (path text : String) : m (Except IoError Unit) :=
  host.write path text.toUTF8

end Host

end Stopwatch
