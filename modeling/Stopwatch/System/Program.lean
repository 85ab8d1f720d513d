import Stopwatch.System.Disk
import Stopwatch.System.Signal

/-!
# Programs

A program is what a process still has to do: it ends, or it asks the system for something and goes on with
the answer, or it starts another process. Nothing else happens between two requests, so a machine that serves
one request after another can run many programs side by side.

- `Image`: what another program is made of;
- `Request` and `Request.Answer`: what can be asked, and what is answered;
- `Program`: what a process still has to do;
- `Action`: a part of a program that gives a value.
-/

namespace Stopwatch.System

/-- How a process ended. -/
inductive Ending where
  | exited (status : Nat)
  | killed (signal : Signal)
deriving DecidableEq, Repr, Inhabited

namespace Ending

/-- The status that stands for an ending. -/
def status : Ending → Nat
  | exited status => status
  | killed signal => signal.status

end Ending

/-- How a file is opened. -/
structure Access where
  reads : Bool
  writes : Bool
  /-- Whether a missing file is made. -/
  creates : Bool
  /-- Whether the file must be missing. -/
  isNew : Bool
  /-- Whether what is in the file is lost. -/
  empties : Bool
  /-- Whether all is written at the end. -/
  appends : Bool
deriving DecidableEq, Repr, Inhabited

namespace Access

def input : Access := ⟨true, false, false, false, false, false⟩

/-- Writing from the start of an empty file on. -/
def output : Access := ⟨false, true, true, false, true, false⟩

/-- Writing at the end of a file. -/
def extension : Access := ⟨false, true, true, false, false, true⟩

/-- Reading and writing. -/
def exchange : Access := ⟨true, true, true, false, false, false⟩

end Access

/-- What tells pipes apart. -/
inductive PipeId where
  | unnamed (id : Nat)
  /-- A pipe that has a name on the disk, by its number there. -/
  | named (serial : Nat)
deriving DecidableEq, Repr, Inhabited

/-- Where an open file leads. -/
inductive Stream where
  | device (d : Device)
  | file (serial : Nat)
  | directory
  /-- A file that never changes. -/
  | constant (content : ByteArray)
  | pipe (id : PipeId)
  /-- A pipe that somebody outside of the machine reads. -/
  | outlet (id : Nat)
deriving BEq, Inhabited

/-- A file that has been opened, with the place that has been reached in it. -/
structure Opening where
  stream : Stream
  reads : Bool
  writes : Bool
  appends : Bool
  offset : Nat
deriving BEq, Inhabited

/-- What a process sees of the files. -/
structure View where
  disk : Disk
  directory : Location
deriving Inhabited

namespace View

def follow (v : View) (path : String) (purpose : Disk.Purpose) : Except SystemError Disk.Target :=
  v.disk.follow v.directory path purpose

def find? (v : View) (path : String) : Option (Location × Node) := v.disk.find? v.directory path

def read (v : View) (path : String) : Except SystemError ByteArray := v.disk.read v.directory path

def isFile (v : View) (path : String) : Bool := v.disk.isFile v.directory path

def isDirectory (v : View) (path : String) : Bool := v.disk.isDirectory v.directory path

end View

/-- The numbers of a process. -/
structure Identity where
  pid : Nat
  parent : Nat
  group : Nat
deriving DecidableEq, Repr, Inhabited

/-- What a process does about a signal. -/
inductive Heed where
  /-- What the signal does by itself. -/
  | usual
  | ignore
  /-- The signal is kept until the process looks for it. -/
  | notice
deriving DecidableEq, Repr, Inhabited

/-- How long a process waits for a child to end. -/
inductive Patience where
  | none
  | endless
  /-- Until a signal comes that the process notices. -/
  | untilSignal
deriving DecidableEq, Repr, Inhabited

/-- What became of waiting for a child. -/
inductive Awaited where
  | ended (pid : Nat) (ending : Ending)
  | childless
  /-- No child has ended. -/
  | nothing
  | interrupted
deriving DecidableEq, Repr, Inhabited

/-- A limit of what a process may use, by its letter. -/
structure Limit where
  letter : Char
  /-- The limit that holds; nothing if there is none. -/
  soft : Option Nat
  /-- How far it may be raised. -/
  hard : Option Nat
deriving DecidableEq, Repr, Inhabited

/-- A tool with what it gets when it starts. -/
structure Image where
  tool : String
  /-- The name by which it was called. -/
  called : Bytes
  arguments : List Bytes
  /-- The variables that it gets, with their values. -/
  environment : List (Bytes × Bytes)
deriving DecidableEq, Repr, Inhabited

inductive Request where
  | time
  /-- Works for some time. -/
  | spend (duration : Nat)
  /-- Does nothing for some time. -/
  | rest (duration : Nat)
  | restUntil (time : Nat)
  | identity
  | view
  /-- Changes the files, unless that is refused. -/
  | alter (change : View → Except SystemError Disk)
  /-- Goes to a directory. -/
  | enter (location : Location)
  /-- The permissions that new files do not get, perhaps after a change. -/
  | mask (change : Option Nat)
  | openFile (path : String) (access : Access)
  | pipe
  /-- A copy of a descriptor with at least some number; a private one is closed when another program starts. -/
  | copy (descriptor least : Nat) (isPrivate : Bool)
  /-- Makes a descriptor lead where another one leads. -/
  | place (source target : Nat)
  | close (descriptor : Nat)
  | describe (descriptor : Nat)
  /-- Some bytes; none at the end of the file. What reads lines takes nothing beyond a line feed, and gives up
  when a signal comes that it notices. -/
  | read (descriptor most : Nat) (ofLine : Bool)
  | write (descriptor : Nat) (text : Bytes)
  | seek (descriptor offset : Nat)
  | await (patience : Patience)
  /-- Sends a signal to a process, or to the group with the number behind a minus sign. -/
  | send (target : Int) (signal : Signal)
  | heed (signal : Signal) (heed : Heed)
  | ignored
  /-- The signals that have come and are noticed. -/
  | signals
  /-- Leads a group of its own from now on. -/
  | lead
  | limits
  | setLimits (limits : List Limit)
deriving Inhabited

/-- What is answered to a request. -/
@[reducible] def Request.Answer : Request → Type
  | time => Nat
  | identity => Identity
  | view => View
  | alter _ => Except SystemError Unit
  | mask _ => Nat
  | openFile _ _ => Except SystemError Nat
  | pipe => Nat × Nat
  | copy _ _ _ => Except SystemError Nat
  | place _ _ => Except SystemError Unit
  | describe _ => Option Opening
  | read _ _ _ => Except SystemError Bytes
  | write _ _ => Except SystemError Nat
  | await _ => Awaited
  | send _ _ => Bool
  | ignored => List Signal
  | signals => List Signal
  | limits => List Limit
  | _ => Unit

/-- What a process still has to do. -/
inductive Program where
  | exit (status : Nat)
  | ask (request : Request) (next : request.Answer → Program)
  /-- Starts another process, and goes on with its number. -/
  | fork (child : Program) (next : Nat → Program)
  /-- Becomes another program. -/
  | execute (image : Image)

instance : Inhabited Program := ⟨.exit 0⟩

/-- A part of a program that gives a value: it makes a program of what is done with that value. -/
def Action (α : Type) : Type := (α → Program) → Program

instance : Monad Action where
  pure a := fun next => next a
  bind x f := fun next => x fun a => f a next

namespace Action

/-- The program that ends with the status that an action gives. -/
def toProgram (action : Action Nat) : Program := action .exit

def ask (request : Request) : Action request.Answer := fun next => .ask request next

/-- Starts a process and gives its number. -/
def fork (child : Program) : Action Nat := fun next => .fork child next

/-- Ends the process. -/
def exit {α : Type} (status : Nat) : Action α := fun _ => .exit status

/-- Goes on as another program. -/
def execute {α : Type} (image : Image) : Action α := fun _ => .execute image

/-- Writes all of a text; gives what went wrong, if something did. `fuel` bounds the number of bytes. -/
def writeFrom (descriptor : Nat) : (fuel : Nat) → Bytes → Action (Option SystemError)
  | 0, _ => return none
  | _, [] => return none
  | fuel + 1, text => do
    match ← ask (.write descriptor text) with
    | .error e => return some e
    | .ok count => writeFrom descriptor fuel (text.drop count)

/-- Writes all of a text; gives what went wrong, if something did. -/
def write (descriptor : Nat) (text : Bytes) : Action (Option SystemError) :=
  writeFrom descriptor (text.length + 1) text

/-- How much is read at once. -/
def portion : Nat := 65536

/-- More readings than any input takes that has an end. -/
def plentiful : Nat := 1000000000

/-- Goes over all portions of an input; gives what went wrong, if something did. `fuel` bounds the number of
portions. -/
def overInput {σ : Type} (descriptor : Nat) (use : σ → Bytes → Action (Option σ)) :
    (fuel : Nat) → σ → Action (σ × Option SystemError)
  | 0, s => return (s, none)
  | fuel + 1, s => do
    match ← ask (.read descriptor portion false) with
    | .error e => return (s, some e)
    | .ok [] => return (s, none)
    | .ok text =>
      match ← use s text with
      | some s => overInput descriptor use fuel s
      | none => return (s, none)

/-- All that a descriptor gives, and what went wrong, if something did. -/
def readAll (descriptor : Nat) : Action (Bytes × Option SystemError) := do
  let (portions, e) ← overInput descriptor (fun (done : List Bytes) text => return some (text :: done)) plentiful []
  return (portions.reverse.flatten, e)

end Action

end Stopwatch.System
