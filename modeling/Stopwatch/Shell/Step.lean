import Stopwatch.Shell.State

/-!
# Steps

A step of a shell asks the system for things, changes what the shell knows, and may leave its surroundings. This
module holds what all steps share: complaints, of which some end the shell; assignments; surroundings that are put
back; subshells; and signals.
-/

namespace Stopwatch.Shell

open Stopwatch.System (Action Heed Program Request Signal)

/-- A step of a shell: it may leave its surroundings. -/
abbrev Step := ExceptT Flow (StateT State Action)

namespace Step

/-- Asks the system for something. -/
def ask (request : Request) : Step request.Answer := (Action.ask request : Action _)

def setStatus (status : Nat) : Step Unit := modify fun s => { s with status }

/-- The time of a command that starts no program. -/
def commandTime : Nat := 10 * Span.microsecond

/-- A time in which everything else comes to its end. -/
def endless : Nat := 1000000000 * Span.second

/-- Goes on with nothing any more. -/
def stall {α : Type} : Step α := do
  ask (.rest endless)
  throw .exit

/-! ### Complaints -/

/-- Writes a line to the error output. -/
def complain (text : Bytes) : Step Unit := do
  let _ ← (Action.write 2 (text ++ ['\n']) : Action _)

/-- Complains in the name of the script about a line. -/
def blameLine (line : Nat) (text : Bytes) : Step Unit := do
  let s ← get
  let context := if s.context.isEmpty then [] else s.context ++ [':', ' ']
  complain (s.name ++ [':', ' '] ++ Bytes.decimal line ++ [':', ' '] ++ context ++ text)

/-- Complains in the name of the script about the command that is carried out. -/
def blame (text : Bytes) : Step Unit := do
  blameLine (← get).line text

/-- Complains; the shell ends unless somebody cares. -/
def giveUp {α : Type} (text : Bytes) : Step α := do
  blame text
  setStatus 2
  throw .fail

/-! ### Assignments -/

/-- Whether a text can be the name of a variable. -/
def isName (text : Bytes) : Bool :=
  text.all (fun c => c.isAlphanum || c = '_') && text.head?.any fun c => !c.isDigit

/-- Fails unless a variable can be changed. -/
def checkVariable (name : Bytes) : Step Unit := do
  if !isName name then giveUp (name ++ Bytes.ofString ": bad variable name")
  if ((← get).binding? name).any (·.fixed) then giveUp (name ++ Bytes.ofString ": is read only")

/-- Assigns a value to a variable. -/
def assign (name value : Bytes) : Step Unit := do
  checkVariable name
  modify (·.withVariable name value)

/-! ### Surroundings -/

/-- Carries out a step and gives the flow that it takes. -/
def attempt {α : Type} (body : Step α) : Step (Except Flow α) := ExceptT.mk do
  let outcome ← body.run
  return .ok outcome

/-- Goes on as an attempt has ended. -/
def resume {α : Type} (outcome : Except Flow α) : Step α := do
  match outcome with
  | .error flow => throw flow
  | .ok value => return value

/-- Carries out a step and, however it ends, another one after it. -/
def thenAlways (body last : Step Unit) : Step Unit := do
  let outcome ← attempt body
  last
  resume outcome

/-- Carries out a step inside one more loop. -/
def inLoop (body : Step Unit) : Step Unit := do
  let loops := (← get).loops
  modify fun s => { s with loops := loops + 1 }
  thenAlways body (modify fun s => { s with loops })

/-- Carries out a step as part of a command of the shell. -/
def inContext (context : Bytes) (body : Step Unit) : Step Unit := do
  let outer := (← get).context
  modify fun s => { s with context }
  thenAlways body (modify fun s => { s with context := outer })

/-! ### Signals -/

/-- Whether something is to be done at some signal or at the exit. -/
def hasTraps (s : State) : Bool := s.traps.any fun t => !t.2.isEmpty

/-- What a process does about a signal for which nothing is to be done. A shell looks whether it was
interrupted. -/
def usualHeed (isMain : Bool) (signal : Signal) : Heed :=
  if isMain && signal = .interrupt then .notice else .usual

/-- Keeps what is to be done at a signal, or that nothing is to be done. -/
def setTrap (signal : Signal) (action : Option Bytes) : Step Unit := do
  modify fun s =>
    let others := s.traps.filter (·.1 ≠ signal)
    { s with traps := action.elim others fun text => (signal, text) :: others }
  if signal ≠ 0 && !(← get).deaf.contains signal then
    ask (.heed signal (match action with
      | none => usualHeed true signal
      | some text => if text.isEmpty then .ignore else .notice))

/-- Looks for signals that have come. -/
def listen : Step Unit := do
  let fresh ← ask .signals
  if !fresh.isEmpty then modify fun s => { s with arrived := s.arrived ++ fresh }

/-- Ends by a signal. -/
def succumb (signal : Signal) : Step Unit := do
  let me ← ask .identity
  ask (.heed signal .usual)
  let _ ← ask (.send me.pid signal)
  stall

/-! ### Subshells -/

/-- What a subshell forgets. It keeps on ignoring what the shell ignores. -/
def becomeSubshell : Step Unit := do
  for (signal, action) in (← get).traps do
    if !action.isEmpty && signal ≠ 0 then ask (.heed signal .usual)
  modify fun s => { s with
    traps := s.traps.filter (·.2.isEmpty)
    jobs := []
    arrived := [] }

/-- The program that carries out a step in some state. -/
def toProgram (body : Step Unit) (s : State) : Program :=
  ((body.run).run s) fun (_, s) => .exit s.status

/-- Starts a process that carries out a step; gives its number. -/
def fork (body : Step Unit) : Step Nat := do
  let s ← get
  (Action.fork (toProgram body s) : Action _)

end Step

end Stopwatch.Shell
