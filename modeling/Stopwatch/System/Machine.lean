import Stopwatch.Span
import Stopwatch.System.Program

/-!
# Machines

A machine holds files, pipes and processes. A process is ready at some time, or waits until something
happens in the machine; then it tries again. Whatever may let a waiting process go on therefore rouses all
that wait.

- `Process`, `Machine`: what there is;
- `Machine.opening?`, `attach`, `detach`: the descriptors of processes;
- `Machine.deliver`, `send`: signals;
- `Machine.finish`: the end of a process.
-/

namespace Stopwatch.System

/-- A descriptor of a process. -/
structure Descriptor where
  number : Nat
  /-- The file that has been opened. -/
  opening : Nat
  /-- Whether it is closed when another program starts. -/
  isPrivate : Bool
deriving DecidableEq, Repr, Inhabited

structure Process where
  identity : Identity
  program : Program
  descriptors : List Descriptor
  directory : Location
  /-- The permissions that new files do not get. -/
  mask : Nat
  limits : List Limit
  ignored : List Signal
  noticed : List Signal
  /-- The noticed signals that have come, latest first. -/
  pending : List Signal
  /-- The descriptor of a pipe with a name whose other end is not open yet. -/
  opened : Option Nat
  /-- When it goes on; nothing if it waits for something to happen. -/
  ready : Option Nat
  /-- The signal that is about to end it. -/
  doom : Option Signal
  isPaused : Bool
  /-- How it ended. It is kept until its parent knows. -/
  ending : Option Ending
deriving Inhabited

/-- A pipe with what is in it. -/
structure Pipe where
  id : PipeId
  text : Bytes
deriving Repr, Inhabited

/-- A pipe out of the machine, with what was written to it, latest first. -/
structure Outlet where
  id : Nat
  texts : List Bytes
deriving Repr, Inhabited

structure Machine where
  disk : Disk
  /-- Nanoseconds since some common start. -/
  now : Nat
  processes : List Process
  openings : List (Nat × Opening)
  pipes : List Pipe
  outlets : List Outlet
  /-- A number for the next opening or pipe. -/
  fresh : Nat
  /-- The number of the next process. -/
  nextPid : Nat
  /-- The number of whoever starts processes from outside. -/
  owner : Nat
  /-- The program that an image is. -/
  programOf : Image → Program
deriving Inhabited

/-- An action on a machine. -/
abbrev Service := StateM Machine

namespace Machine

/-! ### Costs -/

/-- The time that it takes to ask for something small. -/
def requestTime : Nat := Span.microsecond

/-- The time that it takes to read or write one byte. -/
def byteTime : Nat := 50

/-- The time until a parent goes on after it has started a process. -/
def forkTime : Nat := 200 * Span.microsecond

/-- The time until a new process starts. -/
def birthTime : Nat := 350 * Span.microsecond

/-- The time that it takes to become another program. -/
def renewTime : Nat := 600 * Span.microsecond

/-- The time until a signal ends another process. -/
def doomTime : Nat := 60 * Span.microsecond

/-- The number of the process that takes over those without a parent. -/
def orphanage : Nat := 1

/-! ### Processes -/

def process? (m : Machine) (pid : Nat) : Option Process := m.processes.find? (·.identity.pid = pid)

/-- Changes a process. -/
def changeProcess (pid : Nat) (change : Process → Process) : Service Unit :=
  modify fun m => { m with
    processes := m.processes.map fun p => if p.identity.pid = pid then change p else p }

/-- Whether a process has not ended. -/
def isRunning (m : Machine) (pid : Nat) : Bool := m.processes.any fun p =>
  p.identity.pid = pid && p.ending.isNone

/-- Lets all waiting processes try again. -/
def rouse : Service Unit :=
  modify fun m => { m with
    processes := m.processes.map fun p =>
      if p.ready.isNone && p.ending.isNone then { p with ready := some m.now } else p }

/-- A number that has not been used. -/
def newId : Service Nat := modifyGet fun m => (m.fresh, { m with fresh := m.fresh + 1 })

/-- Changes what is in a pipe. -/
def changePipe (id : PipeId) (change : Bytes → Bytes) : Service Unit :=
  modify fun m => { m with
    pipes := m.pipes.map fun pipe => if pipe.id = id then ⟨id, change pipe.text⟩ else pipe }

/-- What is in a pipe. -/
def pipeText (m : Machine) (id : PipeId) : Bytes := (m.pipes.find? fun pipe => pipe.id = id).elim [] Pipe.text

/-- Writes to a pipe out of the machine. -/
def putOut (id : Nat) (text : Bytes) : Service Unit :=
  modify fun m => { m with
    outlets := m.outlets.map fun outlet =>
      if outlet.id = id then { outlet with texts := text :: outlet.texts } else outlet }

/-! ### Descriptors -/

/-- The descriptor of a process with a number. -/
def descriptor? (p : Process) (number : Nat) : Option Descriptor :=
  p.descriptors.find? (·.number = number)

/-- The opening that a descriptor of a process leads to, with its number. -/
def opening? (m : Machine) (p : Process) (number : Nat) : Option (Nat × Opening) :=
  (descriptor? p number).bind fun d => (m.openings.lookup d.opening).map fun o => (d.opening, o)

/-- The smallest number of a descriptor, from some number on, that a process does not use; `fuel` bounds the
number of attempts. -/
def freeFrom (p : Process) : (fuel : Nat) → Nat → Nat
  | 0, n => n
  | fuel + 1, n => if (descriptor? p n).isSome then freeFrom p fuel (n + 1) else n

/-- The smallest number of a descriptor, from some number on, that a process does not use. -/
def freeNumber (p : Process) (least : Nat) : Nat := freeFrom p (p.descriptors.length + 1) least

/-- Makes a new opening. -/
def addOpening (opening : Opening) : Service Nat := do
  let id ← newId
  modify fun m => { m with openings := (id, opening) :: m.openings }
  return id

/-- Changes an opening. -/
def changeOpening (id : Nat) (change : Opening → Opening) : Service Unit :=
  modify fun m => { m with openings := m.openings.map fun o => if o.1 = id then (id, change o.2) else o }

/-- Forgets an opening that no process holds any more, and pipes to which none leads. -/
def dropOpening (id : Nat) : Service Unit :=
  modify fun m =>
    if m.processes.any fun p => p.descriptors.any (·.opening = id) then m
    else
      let openings := m.openings.filter (·.1 ≠ id)
      let pipes := m.pipes.filter fun pipe => openings.any fun o => o.2.stream == .pipe pipe.id
      { m with openings, pipes }

/-- Closes descriptors of a process. -/
def detach (pid : Nat) (which : Descriptor → Bool) : Service Unit := do
  match (← get).process? pid with
  | none => return
  | some p =>
    let (closed, kept) := p.descriptors.partition which
    if closed.isEmpty then return
    changeProcess pid fun p => { p with descriptors := kept }
    for d in closed do
      dropOpening d.opening
    rouse

/-- Gives a process a descriptor, in place of one with the same number. -/
def attach (pid : Nat) (d : Descriptor) : Service Unit := do
  detach pid (·.number = d.number)
  changeProcess pid fun p => { p with descriptors := d :: p.descriptors }

/-- Whether a process holds an opening of a kind. -/
def holds (m : Machine) (p : Process) (kind : Opening → Bool) : Bool :=
  p.descriptors.any fun d => (m.openings.lookup d.opening).any kind

/-- Whether some process holds an opening of a kind. -/
def isHeld (m : Machine) (kind : Opening → Bool) : Bool := m.processes.any (m.holds · kind)

/-- Whether a process can still write to a pipe. -/
def hasWriter (m : Machine) (pipe : PipeId) : Bool := m.isHeld fun o => o.stream == .pipe pipe && o.writes

/-- Whether a process can still read from a pipe. -/
def hasReader (m : Machine) (pipe : PipeId) : Bool := m.isHeld fun o => o.stream == .pipe pipe && o.reads

/-- Whether a process can still write to a pipe out of the machine. -/
def isOutletHeld (m : Machine) (outlet : Nat) : Bool := m.isHeld fun o => o.stream == .outlet outlet

/-! ### Signals -/

/-- Lets a signal come to a process. -/
def deliver (pid : Nat) (signal : Signal) : Service Unit := do
  let now := (← get).now
  changeProcess pid fun p =>
    if p.ending.isSome || signal = 0 then p
    else if signal = .kill then { p with doom := some signal, isPaused := false, ready := some (now + doomTime) }
    else
      let p := if signal = .resume then { p with isPaused := false } else p
      if signal.isPausing && (signal.isFinal || !(p.ignored.contains signal || p.noticed.contains signal)) then
        { p with isPaused := true }
      else if p.ignored.contains signal then p
      else if p.noticed.contains signal then
        { p with
          pending := signal :: p.pending.filter (· ≠ signal)
          ready := some (p.ready.getD (now + doomTime)) }
      else if signal.isHarmless then p
      else { p with doom := some (p.doom.getD signal), ready := some (now + doomTime) }

/-- The processes that a target stands for: a number, or minus the number of a group. -/
def targets (m : Machine) (sender : Process) (target : Int) : List Process :=
  m.processes.filter fun p =>
    if 0 < target then (p.identity.pid : Int) = target
    else if target = 0 then p.identity.group = sender.identity.group
    else if target = -1 then p.identity.pid ≠ sender.identity.pid
    else (p.identity.group : Int) = -target

/-! ### The end of a process -/

/-- Forgets a process that has ended. -/
def bury (pid : Nat) : Service Unit :=
  modify fun m => { m with processes := m.processes.filter (·.identity.pid ≠ pid) }

/-- Ends a process. Its children lose their parent, and its own parent hears of it. -/
def finish (pid : Nat) (ending : Ending) : Service Unit := do
  match (← get).process? pid with
  | none => return
  | some p =>
    detach pid fun _ => true
    modify fun m => { m with
      processes := (m.processes.filter fun c => !(c.identity.parent = pid && c.ending.isSome)).map fun c =>
        if c.identity.parent = pid then { c with identity := { c.identity with parent := orphanage } } else c }
    let m ← get
    let parent := p.identity.parent
    if parent = m.owner || m.isRunning parent then
      changeProcess pid fun p => { p with ending := some ending, ready := none, program := .exit 0 }
      deliver parent .child
    else bury pid
    rouse

end Machine

end Stopwatch.System
