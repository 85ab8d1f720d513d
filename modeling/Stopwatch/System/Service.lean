import Stopwatch.System.Machine

/-!
# Serving requests

What the machine does when a process asks for something. A request that cannot be met yet has no answer, and
the process that made it waits.

- `Machine.serve`: the answer to a request, if there is one yet;
- `Machine.cost`: the time that a request takes.
-/

namespace Stopwatch.System

namespace Machine

/-- How much a pipe can hold. -/
def pipeSize : Nat := 65536

/-- How much is written to a pipe at once or not at all. -/
def wholeSize : Nat := 4096

/-! ### Opening files -/

/-- The stream of a node that is opened, if that is possible. -/
def streamOf (access : Access) : Node → Except SystemError Stream
  | .directory => if access.writes then .error .isDirectory else .ok .directory
  | .file serial => .ok (.file serial)
  | .tool _ => if access.writes then .error .textBusy else .ok (.constant Disk.toolBytes)
  | .device .terminal => .error .noDevice
  | .device d => .ok (.device d)
  | .link _ => .error .tooManyLinks
  | .fifo serial => .ok (.pipe (.named serial))

/-- Gives a process a new descriptor for a stream. -/
def openStream (p : Process) (stream : Stream) (reads writes appends : Bool) : Service Nat := do
  let opening ← addOpening ⟨stream, reads, writes, appends, 0⟩
  let number := freeNumber p 0
  attach p.identity.pid ⟨number, opening, false⟩
  return number

/-- Whether somebody holds the other end of a pipe. -/
def isMet (m : Machine) (pipe : PipeId) (access : Access) : Bool :=
  (access.reads && access.writes) || (if access.reads then m.hasWriter pipe else m.hasReader pipe)

/-- Opens a pipe with a name; nothing as long as nobody opens its other end. -/
def openFifo (p : Process) (pipe : PipeId) (access : Access) : Service (Option Nat) := do
  let number ← match p.opened with
    | some number => pure number
    | none =>
      modify fun m => if m.pipes.any (·.id = pipe) then m else { m with pipes := ⟨pipe, []⟩ :: m.pipes }
      openStream p (.pipe pipe) access.reads access.writes access.appends
  let isMet := (← get).isMet pipe access
  if p.opened.isNone then rouse
  changeProcess p.identity.pid fun p => { p with opened := if isMet then none else some number }
  return if isMet then some number else none

/-- Opens a file for a process; nothing if it has to wait. -/
def openFile (p : Process) (path : String) (access : Access) : Service (Option (Except SystemError Nat)) := do
  let m ← get
  let refuse (e : SystemError) : Service (Option (Except SystemError Nat)) := return some (.error e)
  let finish (stream : Stream) : Service (Option (Except SystemError Nat)) :=
    return some (.ok (← openStream p stream access.reads access.writes access.appends))
  match m.disk.follow p.directory path (if access.creates then .fill else .visit) with
  | .error e => refuse e
  | .ok (.missing location) =>
    if !access.creates then refuse .notFound
    else match m.disk.createFile location .empty (0o666 &&& (0o777 ^^^ p.mask)) with
      | .error e => refuse e
      | .ok disk =>
        set { m with disk }
        finish (.file m.disk.files.size)
  | .ok (.found _ (.device (.descriptor n))) =>
    match descriptor? p n with
    | none => refuse .notFound
    | some d =>
      let number := freeNumber p 0
      attach p.identity.pid ⟨number, d.opening, false⟩
      return some (.ok number)
  | .ok (.found _ node) =>
    if access.isNew then refuse .fileExists
    else match streamOf access node with
      | .error e => refuse e
      | .ok (.file serial) =>
        if access.empties then modify fun m => { m with disk := m.disk.fill serial .empty }
        finish (.file serial)
      | .ok (.pipe pipe) => return (← openFifo p pipe access).map .ok
      | .ok stream => finish stream

/-! ### Reading and writing -/

/-- The part of a text that is read at once. -/
def firstPart (most : Nat) (ofLine : Bool) (text : Bytes) : Bytes :=
  let text := text.take most
  if ofLine then
    let line := text.takeWhile (· ≠ '\n')
    text.take (line.length + 1)
  else text

/-- Reads from an opening; nothing if there is nothing to read yet. -/
def readFrom (p : Process) (id : Nat) (o : Opening) (most : Nat) (ofLine : Bool) :
    Service (Option (Except SystemError Bytes)) := do
  let m ← get
  let fromContent (content : ByteArray) : Service (Option (Except SystemError Bytes)) := do
    let text := firstPart most ofLine
      (Bytes.ofByteArray (content.extract o.offset (min content.size (o.offset + most))))
    changeOpening id fun o => { o with offset := o.offset + text.length }
    return some (.ok text)
  match o.stream with
  | .device .null => return some (.ok [])
  | .device _ => return some (.ok (List.replicate most '\x00'))
  | .directory => return some (.error .isDirectory)
  | .outlet _ => return some (.error .badDescriptor)
  | .constant content => fromContent content
  | .file serial => fromContent (m.disk.file serial).content
  | .pipe pipe =>
    match m.pipeText pipe with
    | c :: cs =>
      let text := firstPart most ofLine (c :: cs)
      changePipe pipe (·.drop text.length)
      rouse
      return some (.ok text)
    | [] =>
      if !m.hasWriter pipe then return some (.ok [])
      else if ofLine && !p.pending.isEmpty then return some (.error .interrupted)
      else return none

/-- A content in which some bytes stand from a place on. -/
def splice (content : ByteArray) (offset : Nat) (text : ByteArray) : ByteArray :=
  if content.size = offset then content ++ text
  else
    let gap : ByteArray := ⟨Array.replicate (offset - content.size) 0⟩
    content.extract 0 offset ++ gap ++ text ++ content.extract (offset + text.size) content.size

/-- Writes to an opening and gives how much was written; nothing if there is no room yet. -/
def writeTo (p : Process) (id : Nat) (o : Opening) (text : Bytes) :
    Service (Option (Except SystemError Nat)) := do
  let m ← get
  match o.stream with
  | .device .full => return some (if text.isEmpty then .ok 0 else .error .noSpace)
  | .device _ => return some (.ok text.length)
  | .directory => return some (.error .badDescriptor)
  | .constant _ => return some (.error .badDescriptor)
  | .outlet outlet =>
    putOut outlet text
    return some (.ok text.length)
  | .file serial =>
    let content := (m.disk.file serial).content
    let offset := if o.appends then content.size else o.offset
    set { m with disk := m.disk.fill serial (splice content offset text.toByteArray) }
    changeOpening id fun o => { o with offset := offset + text.length }
    return some (.ok text.length)
  | .pipe pipe =>
    if !m.hasReader pipe then
      deliver p.identity.pid .brokenPipe
      return some (.error .brokenPipe)
    let room := pipeSize - (m.pipeText pipe).length
    if room = 0 || (text.length ≤ wholeSize && room < text.length) then return none
    let part := text.take room
    changePipe pipe (· ++ part)
    rouse
    return some (.ok part.length)

/-! ### Processes -/

/-- Looks for a child that has ended. -/
def awaitChild (p : Process) (patience : Patience) : Service (Option Awaited) := do
  let m ← get
  let children := m.processes.filter (·.identity.parent = p.identity.pid)
  match children.find? (·.ending.isSome) with
  | some child =>
    bury child.identity.pid
    return some (.ended child.identity.pid (child.ending.getD default))
  | none =>
    if children.isEmpty then return some .childless
    else match patience with
      | .none => return some .nothing
      | .endless => return none
      | .untilSignal => return if p.pending.isEmpty then none else some .interrupted

/-- Sends a signal; gives whether there was somebody to get it. -/
def send (p : Process) (target : Int) (signal : Signal) : Service Bool := do
  let found := (← get).targets p target
  for q in found do
    deliver q.identity.pid signal
  return !found.isEmpty

/-- Changes what a process does about a signal. -/
def heedSignal (signal : Signal) (heed : Heed) (p : Process) : Process :=
  if signal.isFinal then p
  else
    let others := p.ignored.filter (· ≠ signal)
    let rest := p.noticed.filter (· ≠ signal)
    match heed with
    | .usual => { p with ignored := others, noticed := rest }
    | .ignore => { p with ignored := signal :: others, noticed := rest }
    | .notice => { p with ignored := others, noticed := signal :: rest }

/-! ### Requests -/

/-- Serves a request of a process; nothing if it has to wait. -/
def serve (p : Process) : (request : Request) → Service (Option request.Answer)
  | .time => return some (← get).now
  | .spend _ => return some ()
  | .rest _ => return some ()
  | .restUntil _ => return some ()
  | .identity => return some p.identity
  | .view => do
    let m ← get
    return some ⟨m.disk, p.directory⟩
  | .alter change => do
    let m ← get
    match change ⟨m.disk, p.directory⟩ with
    | .ok disk =>
      set { m with disk }
      return some (.ok ())
    | .error e => return some (.error e)
  | .enter directory => do
    changeProcess p.identity.pid fun p => { p with directory }
    return some ()
  | .mask change => do
    changeProcess p.identity.pid fun p => { p with mask := change.getD p.mask }
    return some p.mask
  | .openFile path access => openFile p path access
  | .pipe => do
    let id := PipeId.unnamed (← newId)
    modify fun m => { m with pipes := ⟨id, []⟩ :: m.pipes }
    let source ← openStream p (.pipe id) true false false
    let p := ((← get).process? p.identity.pid).getD p
    let target ← openStream p (.pipe id) false true false
    return some (source, target)
  | .copy descriptor least isPrivate => do
    match descriptor? p descriptor with
    | none => return some (.error .badDescriptor)
    | some d =>
      let number := freeNumber p least
      attach p.identity.pid ⟨number, d.opening, isPrivate⟩
      return some (.ok number)
  | .place source target => do
    match descriptor? p source with
    | none => return some (.error .badDescriptor)
    | some d =>
      if source ≠ target then attach p.identity.pid ⟨target, d.opening, false⟩
      return some (.ok ())
  | .close descriptor => do
    detach p.identity.pid (·.number = descriptor)
    return some ()
  | .describe descriptor => do return some (((← get).opening? p descriptor).map (·.2))
  | .read descriptor most ofLine => do
    match (← get).opening? p descriptor with
    | none => return some (.error .badDescriptor)
    | some (id, o) => if o.reads then readFrom p id o most ofLine else return some (.error .badDescriptor)
  | .write descriptor text => do
    match (← get).opening? p descriptor with
    | none => return some (.error .badDescriptor)
    | some (id, o) => if o.writes then writeTo p id o text else return some (.error .badDescriptor)
  | .seek descriptor offset => do
    if let some (id, _) := (← get).opening? p descriptor then
      changeOpening id fun o => { o with offset }
    return some ()
  | .await patience => awaitChild p patience
  | .send target signal => do return some (← send p target signal)
  | .heed signal heed => do
    changeProcess p.identity.pid (heedSignal signal heed)
    return some ()
  | .ignored => return some p.ignored
  | .signals => do
    changeProcess p.identity.pid fun p => { p with pending := [] }
    return some p.pending.reverse
  | .lead => do
    changeProcess p.identity.pid fun p => { p with identity := { p.identity with group := p.identity.pid } }
    return some ()
  | .limits => return some p.limits
  | .setLimits limits => do
    changeProcess p.identity.pid fun p => { p with limits }
    return some ()

/-- The time that a request takes. -/
def cost : Request → Nat
  | .spend duration => duration
  | .write _ text => requestTime + byteTime * text.length
  | _ => requestTime

/-- The time that an answer takes beyond that: bytes have to be copied. -/
def answerCost : (request : Request) → request.Answer → Nat
  | .read _ _ _, .ok text => byteTime * text.length
  | _, _ => 0

end Machine

end Stopwatch.System
