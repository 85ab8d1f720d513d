import Stopwatch.Fault
import Stopwatch.Path

/-!
# Disks

A model of a file system: every node has a location, which is the list of the names that lead to it from
the root, innermost name first. A file is kept apart from its names, of which it may have several. A path is
followed name by name from a starting location; symbolic links are followed up to a limit, and everything in
front of a slash has to be a directory.

The disk is that of a privileged user: the permissions of a file decide whether it can be executed, and
never whether it can be read, written or removed. Devices and pipes are kept apart from files, but nothing
comes out of them: they are read as if they were empty, also the device that gives zeros without end.

- `Disk.follow`: where a path leads;
- `Disk.read`, `write`, `remove`, `makeDirectory`: the operations on files and directories, which fail as
  the system calls do.
-/

namespace Stopwatch.System

/-- The names that lead to a node, innermost first; the root has none. -/
abbrev Location := List String

/-- A file that is no place to keep anything. -/
inductive Device where
  /-- Takes everything and gives nothing. -/
  | null
  /-- Takes everything and gives zeros without end. -/
  | zero
  /-- Takes nothing, as if there were no space left, and gives zeros without end. -/
  | full
  /-- The terminal, of which there is none. -/
  | terminal
  /-- What a descriptor of the process leads to. -/
  | descriptor (n : Nat)
deriving DecidableEq, Repr, Inhabited

/-- A file apart from its names. -/
structure File where
  content : ByteArray
  /-- The permissions, as a number of three octal digits. -/
  mode : Nat
  /-- When the content was last written. -/
  modified : Nat
deriving BEq, Inhabited

namespace File

/-- Whether anybody may execute the file. -/
def isExecutable (file : File) : Bool := file.mode &&& 0o111 ≠ 0

end File

inductive Node where
  /-- A name of the file with a number. -/
  | file (serial : Nat)
  | directory
  | link (target : String)
  /-- An executable that comes with the system. -/
  | tool (name : String)
  | device (d : Device)
  /-- A pipe with a name. -/
  | fifo (serial : Nat)
deriving DecidableEq, Repr, Inhabited

structure Disk where
  /-- All nodes but the root, which is always a directory. -/
  entries : List (Location × Node)
  /-- The files and pipes by their numbers. -/
  files : Array File
  /-- The directories in which nothing can be made. -/
  closed : List Location
  /-- The time at which what is written now is written. -/
  now : Nat
deriving BEq, Inhabited

namespace Disk

/-- The node at a location. -/
def get? (disk : Disk) : Location → Option Node
  | [] => some .directory
  | location => disk.entries.lookup location

/-- Replaces an entry in place, or adds it at the end. -/
def putEntry (location : Location) (node : Node) : List (Location × Node) → List (Location × Node)
  | [] => [(location, node)]
  | e :: es => if e.1 = location then (location, node) :: es else e :: putEntry location node es

def put (disk : Disk) (location : Location) (node : Node) : Disk :=
  { disk with entries := putEntry location node disk.entries }

def erase (disk : Disk) (location : Location) : Disk :=
  { disk with entries := disk.entries.filter fun e => e.1 ≠ location }

/-- The entries of a directory, in no particular order. -/
def children (disk : Disk) (location : Location) : List (String × Node) :=
  disk.entries.filterMap fun e =>
    match e.1 with
    | name :: parent => if parent = location then some (name, e.2) else none
    | [] => none

/-! ### Files -/

/-- The file with a number. -/
def file (disk : Disk) (serial : Nat) : File := disk.files[serial]?.getD ⟨.empty, 0, 0⟩

/-- The file that a node is a name of, if it is one. -/
def fileOf? (disk : Disk) : Node → Option File
  | .file serial => some (disk.file serial)
  | _ => none

/-- Changes the file with a number. -/
def changeFile (disk : Disk) (serial : Nat) (change : File → File) : Disk :=
  { disk with files := disk.files.modify serial change }

/-- Replaces the content of the file with a number. -/
def fill (disk : Disk) (serial : Nat) (content : ByteArray) : Disk :=
  disk.changeFile serial fun file => { file with content, modified := disk.now }

/-- Makes a file at a location. -/
def makeFile (disk : Disk) (location : Location) (content : ByteArray) (mode : Nat) : Disk :=
  { disk with
    entries := putEntry location (.file disk.files.size) disk.entries
    files := disk.files.push ⟨content, mode, disk.now⟩ }

/-- The permissions of new files. -/
def usualMode : Nat := 0o644

/-- The permissions of new files that can be executed. -/
def executableMode : Nat := 0o755

/-! ### Following paths -/

/-- Where a path leads. -/
inductive Target where
  | found (location : Location) (node : Node)
  /-- Nothing is there yet, but its directory is. -/
  | missing (location : Location)
deriving DecidableEq, Repr, Inhabited

/-- The longest name that the system takes, in bytes. -/
def longestName : Nat := 255

/-- The longest path that the system takes, in bytes. -/
def longestPath : Nat := 4095

/-- What a path is followed for. -/
inductive Purpose where
  /-- What the path leads to. -/
  | visit
  /-- The last name itself, also if it is a link. -/
  | name
  /-- A file that is made if there is none. A name with a slash behind it cannot be one. -/
  | fill
deriving DecidableEq, Repr, Inhabited

/-- Follows names from a directory. `onLink` goes on from the directory of a link with its target and
the names that are left. -/
def followNames (disk : Disk) (purpose : Purpose)
    (onLink : Location → String → List String → Except SystemError Target) (location : Location) :
    List String → Except SystemError Target
  | [] => .ok (.found location .directory)
  | name :: rest =>
    if name = "" || name = "." then followNames disk purpose onLink location rest
    else if name = ".." then followNames disk purpose onLink location.tail rest
    else if purpose = .fill && !rest.isEmpty && rest.all (· = "") then .error .isDirectory
    else if longestName < name.utf8ByteSize then .error .nameTooLong
    else match disk.get? (name :: location) with
      | none =>
        if rest.all (· = "") then .ok (.missing (name :: location))
        else .error .notFound
      | some .directory => followNames disk purpose onLink (name :: location) rest
      | some (.link target) =>
        if purpose = .name && rest.isEmpty then .ok (.found (name :: location) (.link target))
        else onLink location target rest
      | some node => if rest.isEmpty then .ok (.found (name :: location) node) else .error .notDirectory

/-- Follows names; `links` bounds the number of symbolic links on the way. -/
def followLinks (disk : Disk) (purpose : Purpose) :
    (links : Nat) → Location → List String → Except SystemError Target
  | 0 => followNames disk purpose fun _ _ _ => .error .tooManyLinks
  | links + 1 => followNames disk purpose fun location target rest =>
      followLinks disk purpose links (if Path.isAbsolute target then [] else location)
        (Path.parts target ++ rest)

/-- The number of symbolic links that the system follows. -/
def mostLinks : Nat := 40

/-- Follows a path from a location. -/
def follow (disk : Disk) (origin : Location) (path : String) (purpose : Purpose) :
    Except SystemError Target :=
  if path = "" then .error .notFound
  else if longestPath < path.utf8ByteSize then .error .nameTooLong
  else
    followLinks disk purpose mostLinks (if Path.isAbsolute path then [] else origin) (Path.parts path)

/-- The node that a path leads to, with its location. -/
def find? (disk : Disk) (origin : Location) (path : String) : Option (Location × Node) :=
  match disk.follow origin path .visit with
  | .ok (.found location node) => some (location, node)
  | _ => none

/-- The path of a location. -/
def pathOf (location : Location) : String := "/" ++ "/".intercalate location.reverse

/-! ### Operations -/

/-- What the file of a tool holds: no text in any encoding. -/
def toolBytes : ByteArray := ⟨#[0x7F, 0x45, 0x4C, 0x46, 0xFF]⟩

/-- The content of the file that a path leads to. -/
def read (disk : Disk) (origin : Location) (path : String) : Except SystemError ByteArray := do
  match ← disk.follow origin path .visit with
  | .missing _ => .error .notFound
  | .found _ (.file serial) => .ok (disk.file serial).content
  | .found _ .directory => .error .isDirectory
  | .found _ (.tool _) => .ok toolBytes
  | .found _ (.device .terminal) => .error .noDevice
  | .found _ _ => .ok .empty

/-- Why nothing can be made at a location, if so. -/
def refusal? (disk : Disk) (location : Location) : Option SystemError :=
  if disk.closed.contains location.tail then some .notFound else none

/-- Makes a file at a location where nothing is. -/
def createFile (disk : Disk) (location : Location) (content : ByteArray) (mode : Nat) :
    Except SystemError Disk :=
  match disk.refusal? location with
  | some e => .error e
  | none => .ok (disk.makeFile location content mode)

/-- Replaces the content of the file that a path leads to; a missing file is made. -/
def write (disk : Disk) (origin : Location) (path : String) (content : ByteArray) :
    Except SystemError Disk := do
  match ← disk.follow origin path .fill with
  | .missing location => disk.createFile location content usualMode
  | .found _ (.file serial) => .ok (disk.fill serial content)
  | .found _ .directory => .error .isDirectory
  | .found _ (.tool _) => .error .textBusy
  | .found _ (.device .full) => if content.isEmpty then .ok disk else .error .noSpace
  | .found _ (.device .terminal) => .error .noDevice
  | .found _ _ => .ok disk

/-- Removes what a path names, unless it is a directory. A link is removed itself. -/
def remove (disk : Disk) (origin : Location) (path : String) : Except SystemError Disk := do
  match ← disk.follow origin path .name with
  | .missing _ => .error .notFound
  | .found _ .directory => .error .isDirectory
  | .found location _ => .ok (disk.erase location)

/-- A path without the slashes at its end. -/
def withoutSlashes (path : String) : String :=
  match path.toList.reverse.dropWhile (· = '/') with
  | [] => path
  | cs => String.ofList cs.reverse

/-- Makes a directory. -/
def makeDirectory (disk : Disk) (origin : Location) (path : String) : Except SystemError Disk := do
  match ← disk.follow origin (withoutSlashes path) .name with
  | .missing location =>
    match disk.refusal? location with
    | some e => .error e
    | none => .ok (disk.put location .directory)
  | .found _ _ => .error .fileExists

/-- Whether a node is one for a regular file. -/
def isFileNode : Node → Bool
  | .file _ => true
  | .tool _ => true
  | _ => false

/-- Whether a path leads to a regular file. -/
def isFile (disk : Disk) (origin : Location) (path : String) : Bool :=
  (disk.find? origin path).any fun found => isFileNode found.2

def isDirectory (disk : Disk) (origin : Location) (path : String) : Bool :=
  (disk.find? origin path).any fun found => found.2 = .directory

/-- Makes a directory unless there is one already. -/
def ensureDirectory (disk : Disk) (origin : Location) (path : String) : Except SystemError Disk :=
  match disk.makeDirectory origin path with
  | .ok disk => .ok disk
  | .error e => if disk.isDirectory origin path then .ok disk else .error e

/-- Makes a directory and those above it; `fuel` bounds their number. A directory above is made only if
the first attempt shows that it is missing, and it stays if a later step fails. -/
def makeDirectories (origin : Location) (path : String) :
    (fuel : Nat) → Disk → Disk × Except SystemError Unit
  | 0, disk => (disk, .error .notFound)
  | fuel + 1, disk =>
    if path = "" then (disk, .ok ())
    else match disk.ensureDirectory origin path with
      | .ok disk => (disk, .ok ())
      | .error .notFound =>
        match Path.parent? path with
        | none => (disk, .error .notFound)
        | some parent =>
          match makeDirectories origin parent fuel disk with
          | (disk, .error e) => (disk, .error e)
          | (disk, .ok _) =>
            match disk.ensureDirectory origin path with
            | .ok disk => (disk, .ok ())
            | .error e => (disk, .error e)
      | .error e => (disk, .error e)

/-- Makes a directory and those above it. What was made stays if a later step fails. -/
def createDirectories (disk : Disk) (origin : Location) (path : String) :
    Disk × Except SystemError Unit :=
  makeDirectories origin path ((Path.components path).length + 1) disk

/-- Makes a pipe at a path where nothing is. -/
def makeFifo (disk : Disk) (origin : Location) (path : String) (mode : Nat) : Except SystemError Disk := do
  match ← disk.follow origin path .name with
  | .missing location =>
    match disk.refusal? location with
    | some e => .error e
    | none =>
      .ok { disk with
        entries := putEntry location (.fifo disk.files.size) disk.entries
        files := disk.files.push ⟨.empty, mode, disk.now⟩ }
  | .found _ _ => .error .fileExists

/-- Makes a link at a path where nothing is. -/
def makeLink (disk : Disk) (origin : Location) (path target : String) : Except SystemError Disk := do
  match ← disk.follow origin path .name with
  | .missing location =>
    match disk.refusal? location with
    | some e => .error e
    | none => .ok (disk.put location (.link target))
  | .found _ _ => .error .fileExists

/-- Lets the file that a path leads to be executed. -/
def allowExecution (disk : Disk) (origin : Location) (path : String) : Disk :=
  match disk.find? origin path with
  | some (_, .file serial) => disk.changeFile serial fun file => { file with mode := executableMode }
  | _ => disk

end Disk

end Stopwatch.System
