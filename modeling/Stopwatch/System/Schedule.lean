import Stopwatch.System.Service

/-!
# Running machines

The process that is ready first goes on first; of several, the one that was started first. A machine runs up to
some time, or until something holds.

- `Machine.step`: lets a process go on for one request;
- `Machine.run`: lets processes go on up to a time, or until something holds;
- `Machine.launch`: starts a process from outside.
-/

namespace Stopwatch.System

namespace Machine

/-- The process that goes on next, and when. -/
def next? (m : Machine) : Option (Nat × Process) :=
  m.processes.foldl (fun best p =>
    match p.ready, best with
    | none, _ => best
    | some t, none => if p.isPaused then none else some (t, p)
    | some t, some (first, q) => if t < first && !p.isPaused then some (t, p) else some (first, q)) none

/-- Starts a child of a process. -/
def spawnChild (p : Process) (child : Program) : Service Nat := do
  let m ← get
  let pid := m.nextPid
  let born : Process := { p with
    identity := ⟨pid, p.identity.pid, p.identity.group⟩
    program := child
    pending := []
    ready := some (m.now + birthTime)
    doom := none
    isPaused := false }
  set { m with processes := m.processes ++ [born], nextPid := pid + 1 }
  return pid

/-- Lets a process go on with the rest of its program after some time, if it has not ended. -/
def proceed (pid : Nat) (duration : Nat) (program : Program) : Service Unit := do
  let now := (← get).now
  changeProcess pid fun p =>
    if p.ending.isSome then p
    else { p with program, ready := some (if p.doom.isSome then now else now + duration) }

/-- Makes a process forget what it does not keep when it becomes another program. -/
def renew (pid : Nat) : Service Unit := do
  detach pid (·.isPrivate)
  changeProcess pid fun p => { p with noticed := [], pending := [] }

/-- Lets a process go on for one request. -/
def step (p : Process) : Service Unit := do
  let pid := p.identity.pid
  match p.doom with
  | some signal => finish pid (.killed signal)
  | none =>
    match p.program with
    | .exit status => finish pid (.exited (status % 256))
    | .fork child next =>
      let child ← spawnChild p child
      proceed pid forkTime (next child)
    | .execute image =>
      renew pid
      proceed pid renewTime ((← get).programOf image)
    | .ask (.rest duration) next => proceed pid 0 (.ask (.restUntil ((← get).now + duration)) next)
    | .ask (.restUntil time) next =>
      if time ≤ (← get).now then proceed pid 0 (next ())
      else changeProcess pid fun p => { p with ready := some time }
    | .ask request next =>
      match ← serve p request with
      | some answer => proceed pid (cost request + answerCost request answer) (next answer)
      | none => changeProcess pid fun p => { p with ready := none }

/-- A machine at a later time, which is also that of its files. -/
def goOnTo (m : Machine) (time : Nat) : Machine := { m with now := time, disk := { m.disk with now := time } }

/-- Runs a machine up to a time, or until something holds; `fuel` bounds the number of requests. -/
def runFor (limit : Option Nat) (isOver : Machine → Bool) : (fuel : Nat) → Machine → Machine
  | 0, m => m
  | fuel + 1, m =>
    if isOver m then m
    else match m.next? with
      | none => m.goOnTo (max m.now (limit.getD m.now))
      | some (time, p) =>
        if limit.any (· < time) then m.goOnTo (max m.now (limit.getD m.now))
        else runFor limit isOver fuel ((step p).run (m.goOnTo (max m.now time))).2

/-- More requests than any run makes that comes to an end. -/
def plentiful : Nat := 1000000000000

/-- Runs a machine up to a time, or until something holds. -/
def run (limit : Option Nat) (isOver : Machine → Bool) (m : Machine) : Machine :=
  runFor limit isOver plentiful m

/-- Lets time pass, in which all processes go on. -/
def runUntil (time : Nat) (m : Machine) : Machine := m.run (some time) fun _ => false

/-- The limits of new processes. -/
def usualLimits : List Limit :=
  [⟨'t', none, none⟩, ⟨'f', none, none⟩, ⟨'d', none, none⟩, ⟨'s', some 8192, none⟩, ⟨'c', some 0, none⟩,
    ⟨'m', none, none⟩, ⟨'l', some 8192, some 8192⟩, ⟨'p', none, none⟩, ⟨'n', some 1048576, some 1048576⟩,
    ⟨'v', none, none⟩, ⟨'w', none, none⟩, ⟨'r', some 0, some 0⟩]

/-- Starts a process from outside; it leads a group of its own if `leads` says so. The streams are those of its
first descriptors. -/
def launch (program : Program) (directory : Location) (leads : Bool) (streams : List (Stream × Bool)) :
    Service Nat := do
  let m ← get
  let pid := m.nextPid
  let started : Process :=
    { identity := ⟨pid, m.owner, if leads then pid else m.owner⟩
      program
      descriptors := []
      directory
      mask := 0o022
      limits := usualLimits
      ignored := []
      noticed := []
      pending := []
      opened := none
      ready := some (m.now + birthTime)
      doom := none
      isPaused := false
      ending := none }
  set { m with processes := m.processes ++ [started], nextPid := pid + 1 }
  for ((stream, reads), number) in streams.zipIdx do
    let opening ← addOpening ⟨stream, reads, !reads, false, 0⟩
    attach pid ⟨number, opening, false⟩
  return pid

/-- A new pipe out of the machine. -/
def newOutlet : Service Nat := do
  let id ← newId
  modify fun m => { m with outlets := ⟨id, []⟩ :: m.outlets }
  return id

/-- What has been written to a pipe out of the machine. -/
def outletText (m : Machine) (outlet : Nat) : Bytes :=
  ((m.outlets.find? fun o => o.id = outlet).elim [] Outlet.texts).reverse.flatten

end Machine

end Stopwatch.System
