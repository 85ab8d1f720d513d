import Stopwatch.System.Installation
import Stopwatch.System.Supervision
import Stopwatch.System.Walk

/-!
# Worlds

A host that exists in memory: a machine, an environment, and clocks that go on whenever they are read or something is
done. The processes of the machine go on with them.
-/

namespace Stopwatch.System

structure World where
  machine : Machine
  /-- Where relative paths start. -/
  directory : Location
  bindings : List (String × String)
  hardware : Environment.Machine
  /-- What the wall clock showed when the other clock started. -/
  start : Nat
  status : Option String
deriving Inhabited

namespace World

/-- An action in a world. -/
abbrev Act := StateM World

def disk (w : World) : Disk := w.machine.disk

/-- The time that it takes to read a clock. -/
def readingTime : Nat := Span.microsecond

/-- The time that a computation takes. -/
def workTime : Nat := 100 * Span.microsecond

/-- Lets time pass. -/
def pass (duration : Nat) : Act Unit :=
  modify fun w => { w with machine := w.machine.runUntil (w.machine.now + duration) }

/-- Carries out an action on a path that the system can take. -/
def guarded {α : Type} (path : String) (action : Act (Except IoError α)) : Act (Except IoError α) :=
  if hasZero path then return .error .zeroInPath else action

/-- Replaces the files. -/
def setDisk (disk : Disk) : Act Unit := modify fun w => { w with machine := { w.machine with disk } }

/-- Changes the files, unless the system refuses. -/
def change (path : String) (f : World → Except SystemError Disk) : Act (Except IoError Unit) :=
  guarded path do
    match f (← get) with
    | .ok disk =>
      setDisk disk
      return .ok ()
    | .error e => return .error (.system e)

/-- The variables that a program gets. -/
def environment (w : World) : List (Bytes × Bytes) :=
  w.bindings.map fun (name, value) => (Bytes.ofString name, Bytes.ofString value)

/-- Where a process starts. -/
def startDirectory (w : World) : Option String → Except SystemError Location
  | none => .ok w.directory
  | some path => do
    match ← w.disk.follow w.directory path .visit with
    | .found location .directory => .ok location
    | .found _ _ => .error .notDirectory
    | .missing _ => .error .notFound

/-- Starts a process and waits for its end, which always comes. -/
def execute (call : Invocation) : Act (Except ProcessError Finished) := do
  if !call.isClean then return .error (.notStarted .zeroInWord)
  let w ← get
  let start : Except SystemError (Location × Image) := do
    let directory ← w.startDirectory call.directory
    let program := Bytes.ofString call.program
    let image ← Loader.load ⟨w.disk, directory⟩ w.environment program program (call.arguments.map Bytes.ofString)
    return (directory, image)
  match start with
  | .error e => return .error (.notStarted (.system e))
  | .ok (directory, image) =>
    let (finished, machine) :=
      (Machine.supervise image w.environment w.directory directory call.limit).run w.machine
    set { w with machine }
    return .ok finished

/-- The host that a world is. -/
def host : Host Act where
  monotonic := do
    pass readingTime
    let w ← get
    return w.machine.now - w.start
  wall := do
    pass readingTime
    return (← get).machine.now
  status := do return (← get).status
  consume _ := pass workTime
  machine := do return (← get).hardware
  environment name := do return (← get).bindings.lookup name
  read path := guarded path do
    let w ← get
    return (w.disk.read w.directory path).mapError .system
  write path bytes := change path fun w => w.disk.write w.directory path bytes
  remove path := change path fun w => w.disk.remove w.directory path
  createDirectories path := guarded path do
    let w ← get
    let (disk, result) := w.disk.createDirectories w.directory path
    setDisk disk
    return result.mapError .system
  isFile path := do
    let w ← get
    return w.disk.isFile w.directory path
  isDirectory path := do
    let w ← get
    return w.disk.isDirectory w.directory path
  canonical? path := do
    let w ← get
    return (w.disk.find? w.directory path).map fun found => Disk.pathOf found.1
  walk path := do
    let w ← get
    return w.disk.walk w.directory path
  execute := execute

/-- A status text as the system writes it. -/
def bareStatus : String := "VmHWM:\t    6144 kB\nVmSize:\t   16384 kB\nVmRSS:\t    4096 kB\n"

/-- A world with a bare machine, at some time in 2026. -/
def bare : World :=
  let start := 1790000000 * Span.second
  { machine := Installation.machine (start + Span.second)
    directory := []
    bindings := [("PATH", Installation.searchPath), ("HOME", "/root")]
    hardware := ⟨"linux", "x86_64", 8⟩
    start
    status := some bareStatus }

end World

end Stopwatch.System
