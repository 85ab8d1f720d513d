import Stopwatch.CommandLine.Program
import Stopwatch.System.World

/-!
# The command line

The real system as a host, and the entry point. Files, clocks and the environment are those of the system.
Engines have to be shell scripts: a script is carried out by the shell of this library on a copy of the
files around it, the time that it takes passes, and what it changes is written back.
-/

namespace Stopwatch.Terminal

open Stopwatch.System

/-- The number of an error, which some actions give with a minus sign. -/
def errorNumber (code : UInt32) : Nat := (if code < 0x80000000 then code else 0 - code).toNat

/-- The cause of a failed action. -/
def errorOf : IO.Error → IoError
  | .noFileOrDirectory .. => .system .notFound
  | .permissionDenied .. => .system .permissionDenied
  | .alreadyExists .. => .system .fileExists
  | .inappropriateType _ code _ =>
    .system (if errorNumber code = SystemError.notDirectory.code then .notDirectory else .isDirectory)
  | e => .other (toString e)

/-- Carries out an action that may fail. -/
def attempt {α : Type} (action : IO α) : IO (Except IoError α) := do
  try return .ok (← action) catch e => return .error (errorOf e)

/-- Carries out an action on a path that the system can take. -/
def attemptOn {α : Type} (path : String) (action : IO α) : IO (Except IoError α) :=
  if hasZero path then return .error .zeroInPath else attempt action

/-- Carries out an action that may fail, and gives a value in its place. -/
def attemptOr {α : Type} (value : α) (action : IO α) : IO α := do
  try action catch _ => return value

/-! ### Files -/

/-- What a path leads to. -/
def kind? (path : String) : IO (Option IO.FS.FileType) :=
  attemptOr none do
    let place := (← IO.currentDir) / path
    return some (← place.metadata).type

def isDirectory (path : String) : IO Bool := return (← kind? path) == some .dir

def isFile (path : String) : IO Bool := return (← kind? path) == some .file

/-- The names in a directory. -/
def names (path : String) : IO (List String) :=
  attemptOr [] do
    let place := (← IO.currentDir) / path
    return (← place.readDir).toList.map (·.fileName)

/-- How deep directories are searched. -/
def depth : Nat := 32

/-- What is at any depth below a directory. -/
def walkFrom : (fuel : Nat) → String → IO (List (Except IoError Entry))
  | 0, _ => return []
  | fuel + 1, path => do
    let below ← (← names path).mapM fun name => do
      let inner := Path.join path name
      match ← kind? inner with
      | some .dir => return .ok ⟨inner, .directory⟩ :: (← walkFrom fuel inner)
      | some .file => return [.ok ⟨inner, .file⟩]
      | some _ => return [.ok ⟨inner, .other⟩]
      | none => return [.error (.system .notFound)]
    return below.flatten

/-- A directory and all that is at any depth below it. -/
def walk (path : String) : IO (List (Except IoError Entry)) := do
  return .ok ⟨path, .directory⟩ :: (← walkFrom depth path)

/-- The absolute path of what a path leads to. -/
def canonical? (path : String) : IO (Option String) :=
  attemptOr none do
    if (← kind? path).isNone then return none
    return some (toString (← IO.FS.realPath path))

/-! ### Scripts -/

/-- Whether a file starts like a script. -/
def isScript (content : ByteArray) : Bool := content.toList.take 2 = [35, 33]

/-- A disk with copies of the files below a directory, at a location. -/
def copyBelow : (fuel : Nat) → Location → String → Disk → IO Disk
  | 0, _, _, disk => return disk
  | fuel + 1, location, path, disk => do
    (← names path).foldlM (fun disk name => do
      let inner := Path.join path name
      let place := name :: location
      match ← kind? inner with
      | some .dir => copyBelow fuel place inner (disk.put place .directory)
      | some .file =>
        let content ← attemptOr .empty (IO.FS.readBinFile inner)
        return disk.makeFile place content (if isScript content then Disk.executableMode else Disk.usualMode)
      | _ => return disk) disk

/-- The location of an absolute path. -/
def locationOf (path : String) : Location := ((Path.parts path).filter (· ≠ "")).reverse

/-- The location and all those above it but the root. -/
def ancestors : Location → List Location
  | [] => []
  | name :: parent => (name :: parent) :: ancestors parent

/-- A disk with the tools and copies of some directories, which are given by absolute paths. -/
def diskOf (now : Nat) (directories : List String) : IO Disk :=
  directories.foldlM (fun disk path => do
    let location := locationOf path
    let missing := (ancestors location).reverse.filter fun place => (disk.get? place).isNone
    copyBelow depth location path (missing.foldl (fun disk place => disk.put place .directory) disk))
    (Installation.disk now)

/-- Writes back what has changed on a disk. -/
def writeBack (before after : Disk) : IO Unit := do
  for (location, _) in before.entries do
    if (after.get? location).isNone then attemptOr () (IO.FS.removeFile (Disk.pathOf location))
  for (location, node) in after.entries.mergeSort fun a b => a.1.length ≤ b.1.length do
    let former := before.get? location
    match node with
    | .directory =>
      if former.isNone then attemptOr () (IO.FS.createDirAll (Disk.pathOf location))
    | .file serial =>
      let content := (after.file serial).content
      let isSame := (former.bind before.fileOf?).any fun file => file.content == content
      if !isSame then attemptOr () (IO.FS.writeBinFile (Disk.pathOf location) content)
    | _ => pure ()

/-- Runs a script and waits for its end. -/
def execute (offset : Nat) (call : Invocation) : IO (Except ProcessError Finished) := do
  let here := toString (← IO.currentDir)
  let places := [some here, call.directory, Path.parent? call.program].filterMap id
  let now := (← IO.monoNanosNow) + offset
  let disk ← diskOf now (← places.filterMapM canonical?).eraseDups
  let path ← IO.getEnv "PATH"
  let world := { World.bare with
    machine := Installation.machineWith disk now
    directory := locationOf here
    bindings := [("PATH", path.getD Installation.searchPath)] }
  let (outcome, after) := (World.execute call).run world
  if let .ok finished := outcome then
    IO.sleep (finished.elapsed / Span.millisecond).toUInt32
    writeBack disk after.disk
  return outcome

/-! ### The host -/

/-- The text of a file of the system, if it can be read. -/
def systemText (path : String) : IO (Option String) :=
  attemptOr none do return some (← IO.FS.readFile path)

/-- The number that a text starts with, in hundredths. -/
def hundredths (text : String) : Nat :=
  let whole := text.toList.takeWhile Char.isDigit
  let fraction := ((text.toList.drop (whole.length + 1)).takeWhile Char.isDigit ++ ['0', '0']).take 2
  Nat.ofDigitChars 10 (whole ++ fraction) 0

/-- What the wall clock shows more than the clock that never goes back, in nanoseconds: the time at which
the system started and the time for which it has been up tell. -/
def wallOffset : IO Nat := do
  let up := hundredths ((← systemText "/proc/uptime").getD "")
  let lines := ((← systemText "/proc/stat").getD "").splitOn "\n"
  let start := (lines.find? (·.startsWith "btime ")).elim 0 fun line =>
    hundredths (String.ofList (line.toList.drop "btime ".length))
  return (start + up) * (Span.second / 100) - (← IO.monoNanosNow)

def machine : IO Environment.Machine := do
  let text (path : String) : IO String := return ((← systemText path).getD "").trimAscii.toString.toLower
  let lines := ((← systemText "/proc/cpuinfo").getD "").splitOn "\n"
  let processors := lines.filter (·.startsWith "processor")
  return ⟨← text "/proc/sys/kernel/ostype", ← text "/proc/sys/kernel/arch", max 1 processors.length⟩

/-- The system as a host; `offset` is that of its wall clock. -/
def host (offset : Nat) : Host IO where
  monotonic := IO.monoNanosNow
  wall := return (← IO.monoNanosNow) + offset
  status := systemText "/proc/self/status"
  consume work := do
    let kept ← IO.mkRef (work (← IO.monoNanosNow).toUInt64)
    kept.set 0
  machine := machine
  environment name := IO.getEnv name
  read path := attemptOn path (IO.FS.readBinFile path)
  write path bytes := attemptOn path (IO.FS.writeBinFile path bytes)
  remove path := attemptOn path (IO.FS.removeFile path)
  createDirectories path := attemptOn path (IO.FS.createDirAll path)
  isFile
  isDirectory
  canonical?
  walk
  execute := execute offset

end Stopwatch.Terminal

/-- Carries out a command line; the result is the exit code. -/
def main (arguments : List String) : IO UInt32 := do
  let offset ← Stopwatch.Terminal.wallOffset
  let output ← Stopwatch.CommandLine.Program.invoke (Stopwatch.Terminal.host offset) arguments
  IO.print output.stdout
  IO.eprint output.stderr
  return UInt32.ofNat output.code
