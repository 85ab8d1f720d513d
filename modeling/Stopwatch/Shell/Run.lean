import Stopwatch.Shell.Builtin
import Stopwatch.Shell.Call
import Stopwatch.Shell.Start

/-!
# Running scripts

The meaning of commands. A command changes the state of its shell and sets its status, and where it does not simply
come to its end it throws the flow that it takes instead. Substitutions, subshells, the stages of pipelines and
commands in the background are processes of their own.

All functions take fuel; with none left nothing goes on any more. Commands come in up to two moods: a command that is
`tested` may fail in a strict script, since somebody looks at its status, and a command that is `final` is the last
one of its shell, which can give its place to a program.

- `Run.command`: carries out a command;
- `Run.whole`: carries out all that a shell does, and what it left for its exit;
- `Run.programOf`: the program that a shell is.
-/

namespace Stopwatch.Shell

open Stopwatch.System (Action Image Program Signal)

namespace Run

open Step (ask attempt blame giveUp resume setStatus stall)

/-! ### Parts of steps -/

/-- Whether a command has nothing to carry out. -/
def isNothing : Command → Bool
  | .sequence [] => true
  | _ => false

/-- How many functions there may be around a command. With more of them there is no space left. -/
def mostCalls : Nat := 12000

/-- The signal for a process without space. -/
def noSpace : Signal := 11

/-- How much of a script is read at once. -/
def scriptPortion : Nat := 8192

/-- Takes a copy of a descriptor that no program gets, and closes the descriptor. -/
def conceal (descriptor : Nat) : Step Nat := do
  match ← ask (.copy descriptor Redirect.leastCopy true) with
  | .ok copy =>
    ask (.close descriptor)
    return copy
  | .error _ => return descriptor

/-- Makes a descriptor lead where another one leads, which is closed. -/
def move (source target : Nat) : Step Unit := do
  if source ≠ target then
    let _ ← ask (.place source target)
    ask (.close source)

/-- Redirects descriptors for the rest of the shell. -/
def redirectForGood (directions : List Direction) : Step Unit := do
  let (kept, isReady) ← Redirect.apply directions []
  Redirect.forget kept
  if !isReady then
    setStatus 2
    throw .fail

/-- What a process in the background does not look at any more, and reads no more. -/
def goAside (isFirst : Bool) : Step Unit := do
  for signal in [Signal.interrupt, Signal.quit] do
    ask (.heed signal .ignore)
    modify fun s => { s with deaf := signal :: s.deaf }
  if isFirst then
    ask (.close 0)
    let _ ← ask (.openFile "/dev/null" .input)

/-- Complains about output that could not be written. -/
def reportLoss (name : Bytes) : Step Unit := do
  if (← get).hasLost then
    modify fun s => { s with hasLost := false }
    blame (name ++ Bytes.ofString ": I/O error")
    setStatus ((← get).status ||| 1)

/-- The file of commands that a name stands for: a path, or a file in the directories of the search variable. -/
def commandFile (name : Bytes) : Step Bytes := do
  if name.contains '/' then return name
  else
    let v ← ask .view
    match (System.Loader.candidates (← get).search name).find? fun path => v.isFile path.toText with
    | some path => return path
    | none => giveUp (name ++ Bytes.ofString ": not found")

/-- Opens a file of commands, and hides its descriptor. -/
def openCommands (path : Bytes) : Step Nat := do
  match ← ask (.openFile path.toText .input) with
  | .ok descriptor => conceal descriptor
  | .error e => giveUp (Redirect.complaint .input path e)

/-- Shows what has been read if the script is to be shown. -/
def showRead (before after : Cursor) : Step Unit := do
  if (← get).isOn 'v' then
    let _ ← (Action.write 2 (before.rest.take (before.rest.length - after.rest.length)) : Action _)

/-- Whether the commands on a line are all that a text holds: nothing comes behind them, not even the end of the
line. -/
def isLast (before after : Cursor) : Bool :=
  after.rest.isEmpty && before.rest.getLast? ≠ some '\n'

/-- The line up to which a script has been read when the commands in front of a place are carried out: the line feed
behind them has been read too. -/
def lineReached (after : Cursor) : Nat := if after.rest.head? = some '\n' then after.line + 1 else after.line

/-- Whether more of a script has to be read before its next line is known. -/
def isOpen (before : Cursor) : Reading → Bool
  | .commands _ after => isLast before after
  | _ => true

/-- Complains about a mistake in a script. -/
def refuse (mistake : Mistake) : Step Unit := do
  Step.blameLine mistake.line (Bytes.ofString mistake.text)
  setStatus 2
  throw .fail

/-- Whether a failure of a command counts in a strict script. Those of its parts have counted already. -/
def isChecked : Command → Bool
  | .simple .. => true
  | .pipeline .. => true
  | .subshell .. => true
  | .background .. => true
  | _ => false

/-- Ends a strict script if a command has failed at which nobody looks. -/
def check (tested : Bool) : Step Unit := do
  let s ← get
  if s.isOn 'e' && !tested && s.status ≠ 0 then throw .over

/-- Assigns a value, either until the end of a command or for good. Gives the assignment as a text. -/
def makeAssignment (isLocal isExported : Bool) (name value : Bytes) : Step Bytes := do
  Step.checkVariable name
  if isLocal then modify (·.covered name)
  modify (·.withVariable name value)
  if isLocal || isExported then modify (·.changeVariable name fun v => { v with exported := true })
  return name ++ '=' :: value

/-- The descriptor of the error output as it was before redirections, if there was one. -/
def display? (kept : List Redirect.Kept) : Option Nat :=
  match kept.find? (·.descriptor = 2) with
  | none => some 2
  | some k => k.copy

/-- Whether the end of a shell has come. -/
def isEnd : Flow → Bool
  | .exit => true
  | .over => true
  | .fail => true
  | _ => false

/-- The signals of a list in order, each once. -/
def inOrder (signals : List Signal) : List Signal := (signals.mergeSort (· ≤ ·)).eraseDups

/-! ### Commands -/

mutual

/-- Does what is to be done at the signals that have come. -/
def attend : (fuel : Nat) → Step Unit
  | 0 => stall
  | fuel + 1 => do
    Step.listen
    let s ← get
    if !s.arrived.isEmpty then
      let status := s.farewell.getD s.status
      modify fun s => { s with farewell := some status, arrived := [] }
      handle status s.farewell fuel (inOrder s.arrived)
      modify fun after => { after with farewell := s.farewell }
termination_by structural fuel => fuel

/-- Does what is to be done at some signals. The status stays what it was unless an action gives another one back, and
an action that leaves its surroundings leaves the other signals for later. -/
def handle (status : Nat) (farewell : Option Nat) : (fuel : Nat) → List Signal → Step Unit
  | 0, _ => stall
  | _, [] => return
  | fuel + 1, signal :: rest => do
    match (← get).traps.lookup signal with
    | none =>
      if signal = .interrupt then Step.succumb signal
      handle status farewell fuel rest
    | some action =>
      match ← attempt (text fuel false false false (Script.start action)) with
      | .ok _ =>
        setStatus status
        handle status farewell fuel rest
      | .error flow =>
        if !isEnd flow then
          if flow ≠ .giveBack true then setStatus status
          modify fun s => { s with farewell, arrived := rest }
        throw flow
termination_by structural fuel => fuel

/-- Runs the commands of a text. `hasRun` tells whether there have been any; without any the status is zero. -/
def text : (fuel : Nat) → (tested final hasRun : Bool) → Cursor → Step Unit
  | 0, _, _, _, _ => stall
  | fuel + 1, tested, final, hasRun, cursor => do
    match Script.next (← get).aliases cursor with
    | .finished => if !hasRun then setStatus 0
    | .mistaken mistake => refuse mistake
    | .commands all after =>
      showRead cursor after
      modify fun s => { s with reached := lineReached after }
      sequence fuel tested (final && isLast cursor after) all
      text fuel tested final true after
termination_by structural fuel => fuel

/-- Runs a text in place of a command. -/
def within : (fuel : Nat) → (tested : Bool) → Bytes → Step Unit
  | 0, _, _ => stall
  | fuel + 1, tested, content => do
    let reached := (← get).reached
    Step.thenAlways (text fuel tested false false (Script.start content)) (modify fun s => { s with reached })
termination_by structural fuel => fuel

/-- Runs the commands that a descriptor gives, as they come. -/
def input (descriptor : Nat) : (fuel : Nat) → (isEnded hasRun : Bool) → Cursor → Step Unit
  | 0, _, _, _ => stall
  | fuel + 1, isEnded, hasRun, cursor => do
    let reading := Script.next (← get).aliases cursor
    if !isEnded && isOpen cursor reading then
      match ← ask (.read descriptor scriptPortion false) with
      | .ok (c :: cs) => input descriptor fuel false hasRun { cursor with rest := cursor.rest ++ c :: cs }
      | _ => input descriptor fuel true hasRun cursor
    else
      match reading with
      | .finished => if !hasRun then setStatus 0
      | .mistaken mistake => refuse mistake
      | .commands all after =>
        showRead cursor after
        modify fun s => { s with reached := lineReached after }
        sequence fuel false false all
        input descriptor fuel isEnded true after
termination_by structural fuel => fuel

/-- Carries out all that a shell does, and at its end what it left for its exit. -/
def whole : (fuel : Nat) → (body : Step Unit) → Step Unit
  | 0, _ => stall
  | fuel + 1, body => do
    let outcome ← attempt body
    if let .error .exit := outcome then modify fun s => { s with status := s.farewell.getD s.status }
    modify fun s => { s with farewell := none, loops := 0 }
    if let some action := (← get).traps.lookup 0 then
      modify fun s => { s with traps := s.traps.filter (·.1 ≠ 0), farewell := some s.status }
      match ← attempt (text fuel false false false (Script.start action)) with
      | .error .fail => return
      | .error .over => return
      | _ => modify fun s => { s with status := s.farewell.getD s.status }
termination_by structural fuel => fuel

/-- The output of a command in a process of its own. -/
def capture : (fuel : Nat) → Command → Step Bytes
  | 0, _ => stall
  | fuel + 1, body => do
    if isNothing body then return []
    else
      let (source, target) ← ask .pipe
      let pid ← Step.fork do
        Step.becomeSubshell
        whole fuel do
          ask (.close source)
          move target 1
          command fuel false true body
      ask (.close target)
      let job ← Jobs.start [pid]
      let (output, _) ← (Action.readAll source : Action _)
      ask (.close source)
      let status := (← get).status
      Jobs.finish job
      modify fun s => { s with substituted := s.status, status }
      return output
termination_by structural fuel => fuel

/-- Makes assignments, either until the end of a command or for good. Gives them as texts. -/
def assignments (isLocal isExported : Bool) : (fuel : Nat) → List (Bytes × Word) → Step (List Bytes)
  | 0, _ => stall
  | _, [] => return []
  | fuel + 1, (name, word) :: rest => do
    let value ← Expansion.text (capture fuel) .value word
    let first ← makeAssignment isLocal isExported name value
    return first :: (← assignments isLocal isExported fuel rest)
termination_by structural fuel => fuel

/-- Shows a command if commands are to be shown. -/
def trace : (fuel : Nat) → (display : Option Nat) → List Bytes → Step Unit
  | 0, _, _ => stall
  | fuel + 1, display, words => do
    let s ← get
    if s.isOn 'x' && !s.isShowing then
      modify fun s => { s with isShowing := true }
      let shown ← match Script.text? (s.valueOf "PS4") with
        | some word => Expansion.text (capture fuel) .nowhere word
        | none => pure []
      modify fun s => { s with isShowing := false }
      if let some descriptor := display then
        let _ ← (Action.write descriptor (shown ++ [' '].intercalate words ++ ['\n']) : Action _)
termination_by structural fuel => fuel

/-- Calls a function. -/
def function : (fuel : Nat) → (tested : Bool) → Command → List Bytes → Step Unit
  | 0, _, _, _ => stall
  | fuel + 1, tested, body, parameters => do
    let s ← get
    if mostCalls < s.calls then Step.succumb noSpace
    set { s with parameters, loops := 0, calls := s.calls + 1, optionIndex := 1, optionOffset := none }
    let outcome ← attempt (command fuel tested false body)
    modify fun after => { after with
      parameters := s.parameters
      loops := s.loops
      calls := s.calls
      optionIndex := s.optionIndex
      optionOffset := s.optionOffset }
    match outcome with
    | .error (.giveBack _) => return
    | outcome => resume outcome
termination_by structural fuel => fuel

/-- Carries out a command that is part of the shell. -/
def builtin : (fuel : Nat) → (tested : Bool) → (name : Bytes) → List Bytes → Step Unit
  | 0, _, _, _ => stall
  | fuel + 1, tested, name, arguments =>
    Step.inContext name do
      ask (.spend Step.commandTime)
      match String.ofList name with
      | "eval" => within fuel tested ([' '].intercalate arguments)
      | "." =>
        match ← Builtin.operands arguments with
        | [] => setStatus 0
        | file :: _ =>
          let path ← commandFile file
          let descriptor ← openCommands path
          let reached := (← get).reached
          let outcome ← attempt (Step.inContext path (input descriptor fuel false false (Script.start [])))
          ask (.close descriptor)
          modify fun s => { s with reached }
          match outcome with
          | .error (.giveBack _) => return
          | outcome => resume outcome
      | "exec" =>
        match arguments with
        | [] => setStatus 0
        | program :: rest => become (pathsOf (← get).search program) program rest
      | "command" =>
        let (found, names) ← Builtin.options "pvV" arguments
        let s ← get
        let search := if Builtin.has 'p' found then Lookup.usualPath else s.search
        if Builtin.has 'v' found || Builtin.has 'V' found then
          Builtin.describe search (Builtin.has 'V' found) (names.take 1)
        else setStatus 0
      | known => Builtin.run known arguments
      reportLoss name
termination_by structural fuel => fuel

/-- Carries out a call. A mistake in a command of the shell is over with that command, unless the command is one
whose mistakes end the shell. -/
def call : (fuel : Nat) → (tested final : Bool) → Call → Step Unit
  | 0, _, _, _ => stall
  | fuel + 1, tested, final, c => do
    match c.kind with
    | .program => runProgram final c.isUsual c.name c.arguments
    | .function body =>
      function fuel tested body c.arguments
      Jobs.reap
    | .builtin =>
      match ← attempt (builtin fuel tested c.name c.arguments) with
      | .error .fail =>
        modify fun s => { s with hasLost := false }
        if c.isSpecial then throw .fail
      | outcome => resume outcome
      Jobs.reap
termination_by structural fuel => fuel

/-- Carries out a simple command: its words, its redirections and its assignments come in this order. -/
def simple (made : List (Bytes × Word)) (words : List Word) (redirections : List Redirection) :
    (fuel : Nat) → (tested final : Bool) → Step Unit
  | 0, _, _ => stall
  | fuel + 1, tested, final => do
    modify fun s => { s with substituted := 0 }
    let c? ← Call.ofWords (capture fuel) words
    let isSpecial := c?.any Call.isSpecial
    let isExec := c?.any fun c => match c.kind with
      | .builtin => c.name = "exec".toList
      | _ => false
    let isLocal := c?.isSome && !isSpecial
    let directions ← Expansion.directions (capture fuel) redirections
    let covers := (← get).hidden.length
    let (kept, isReady) ← Redirect.apply directions []
    let outcome ← attempt do
      if !isReady then
        setStatus 2
        if isSpecial then throw .fail
      else
        let shown ← assignments isLocal (isExec && c?.any fun c => !c.arguments.isEmpty) fuel made
        trace fuel (display? kept) (shown ++ c?.elim [] Call.words)
        match c? with
        | some c => call fuel tested final c
        | none =>
          setStatus (← get).substituted
          Jobs.reap
    let isOver := match outcome with
      | .error flow => isEnd flow
      | .ok _ => false
    if isExec && isReady && !isOver then Redirect.forget kept else Redirect.restore kept
    if !isOver && isLocal then modify (·.uncovered covers)
    resume outcome
termination_by structural fuel => fuel

/-- Carries out commands one after the other. -/
def sequence : (fuel : Nat) → (tested final : Bool) → List Command → Step Unit
  | 0, _, _, _ => stall
  | _, _, final, [] => if final then throw .over else return
  | fuel + 1, tested, final, [last] => command fuel tested final last
  | fuel + 1, tested, final, first :: rest => do
    command fuel tested false first
    sequence fuel tested final rest
termination_by structural fuel => fuel

/-- Starts the stages of a pipeline, of which each reads what the one before it writes. Gives the numbers of the
processes, last one first. -/
def stages (tested isAside : Bool) :
    (fuel : Nat) → (source : Option Nat) → (started : List Nat) → List Command → Step (List Nat)
  | 0, _, _, _ => stall
  | _, _, started, [] => return started
  | fuel + 1, source, started, stage :: rest => do
    let link ← if rest.isEmpty then pure none else some <$> ask .pipe
    let pid ← Step.fork do
      Step.becomeSubshell
      if isAside then goAside started.isEmpty
      whole fuel do
        if let some (next, _) := link then ask (.close next)
        if let some source := source then move source 0
        if let some (_, target) := link then move target 1
        command fuel tested true stage
    if isAside then modify fun s => { s with background := some pid }
    if let some source := source then ask (.close source)
    if let some (_, target) := link then ask (.close target)
    stages tested isAside fuel (link.map Prod.fst) (pid :: started) rest
termination_by structural fuel => fuel

/-- Goes on with a loop as long as its condition has the wanted outcome. Its status is that of the last turn. -/
def loop (tested whileSuccess : Bool) (condition body : Command) (status : Nat) : (fuel : Nat) → Step Unit
  | 0 => stall
  | fuel + 1 => do
    match ← attempt (command fuel true false condition) with
    | .error (.leave 0) => setStatus status
    | .error (.leave (n + 1)) =>
      setStatus status
      throw (.leave n)
    | .error (.again 0) => loop tested whileSuccess condition body status fuel
    | .error (.again (n + 1)) =>
      setStatus status
      throw (.again n)
    | .error flow => throw flow
    | .ok _ =>
      if ((← get).status = 0) = whileSuccess then
        if ← turn fuel tested body then loop tested whileSuccess condition body (← get).status fuel
      else setStatus status
termination_by structural fuel => fuel

/-- Carries out the body of a loop once; gives whether the loop goes on. -/
def turn : (fuel : Nat) → (tested : Bool) → Command → Step Bool
  | 0, _, _ => stall
  | fuel + 1, tested, body => do
    match ← attempt (command fuel tested false body) with
    | .ok _ => return true
    | .error (.leave 0) => return false
    | .error (.leave (n + 1)) => throw (.leave n)
    | .error (.again 0) => return true
    | .error (.again (n + 1)) => throw (.again n)
    | .error flow => throw flow
termination_by structural fuel => fuel

/-- Carries out the body of a loop for each item. -/
def forEach (tested : Bool) (name : Bytes) (body : Command) : (fuel : Nat) → List Bytes → Step Unit
  | 0, _ => stall
  | _, [] => return
  | fuel + 1, item :: rest => do
    Step.assign name item
    if ← turn fuel tested body then forEach tested name body fuel rest
termination_by structural fuel => fuel

/-- Whether a text fits one of some patterns. -/
def fitsAny (subject : Bytes) : (fuel : Nat) → List Word → Step Bool
  | 0, _ => stall
  | _, [] => return false
  | fuel + 1, word :: rest => do
    let pattern ← Expansion.pattern (capture fuel) word
    if Pattern.fits pattern subject then return true else fitsAny subject fuel rest
termination_by structural fuel => fuel

/-- Carries out the first arm with a pattern that fits. -/
def select (tested final : Bool) (subject : Bytes) : (fuel : Nat) → List (List Word × Command) → Step Unit
  | 0, _ => stall
  | _, [] => setStatus 0
  | fuel + 1, (patterns, body) :: rest => do
    if ← fitsAny subject fuel patterns then
      if isNothing body then setStatus 0 else command fuel tested final body
    else select tested final subject fuel rest
termination_by structural fuel => fuel

/-- Carries out a command in a process of its own. -/
def apart : (fuel : Nat) → (tested isAside : Bool) → List Direction → Command → Step Nat
  | 0, _, _, _, _ => stall
  | fuel + 1, tested, isAside, directions, body =>
    Step.fork do
      Step.becomeSubshell
      if isAside then goAside true
      whole fuel do
        redirectForGood directions
        command fuel tested true body
termination_by structural fuel => fuel

/-- Carries out a command with all that belongs to its kind. -/
def evaluate : (fuel : Nat) → (tested final : Bool) → Command → Step Unit
  | 0, _, _, _ => stall
  | fuel + 1, tested, final, c => do
    match c with
    | .simple line made words redirections =>
      modify fun s => { s with line }
      simple made words redirections fuel tested final
    | .pipeline all =>
      let pids ← stages tested false fuel none [] all
      Jobs.finish (← Jobs.start pids.reverse)
    | .negation body =>
      command fuel true false body
      setStatus (if (← get).status = 0 then 1 else 0)
    | .both first second =>
      command fuel true false first
      if (← get).status = 0 then command fuel tested final second
    | .either first second =>
      command fuel true false first
      if (← get).status ≠ 0 then command fuel tested final second
    | .sequence all => sequence fuel tested final all
    | .background line body =>
      modify fun s => { s with line }
      match body with
      | .pipeline all =>
        let pids ← stages tested true fuel none [] all
        let _ ← Jobs.start pids.reverse
      | .redirected line inner redirections =>
        modify fun s => { s with line }
        let directions ← Expansion.directions (capture fuel) redirections
        let pid ← apart fuel false true directions inner
        modify fun s => { s with background := some pid }
        let _ ← Jobs.start [pid]
      | other =>
        let pid ← apart fuel false true [] other
        modify fun s => { s with background := some pid }
        let _ ← Jobs.start [pid]
      setStatus 0
    | .subshell line body redirections =>
      modify fun s => { s with line }
      let directions ← Expansion.directions (capture fuel) redirections
      if final && !Step.hasTraps (← get) then
        redirectForGood directions
        command fuel tested true body
      else
        let pid ← apart fuel tested false directions body
        Jobs.finish (← Jobs.start [pid])
    | .choice condition yes no =>
      command fuel true false condition
      if (← get).status = 0 then command fuel tested final yes
      else if isNothing no then setStatus 0
      else command fuel tested final no
    | .loop whileSuccess condition body => Step.inLoop (loop tested whileSuccess condition body 0 fuel)
    | .forEach line name items body =>
      modify fun s => { s with line }
      let texts ← match items with
        | some words => Expansion.arguments (capture fuel) false words
        | none => pure (← get).parameters
      if texts.isEmpty then setStatus 0
      Step.inLoop (forEach tested name body fuel texts)
    | .select line subject arms =>
      modify fun s => { s with line }
      select tested final (← Expansion.text (capture fuel) .word subject) fuel arms
    | .function _ name body =>
      modify fun s => { s with functions := (name, body) :: s.functions.filter (·.1 ≠ name) }
      setStatus 0
    | .redirected line body redirections =>
      modify fun s => { s with line }
      let directions ← Expansion.directions (capture fuel) redirections
      let (kept, isReady) ← Redirect.apply directions []
      let outcome ← attempt (if isReady then command fuel tested false body else setStatus 2)
      Redirect.restore kept
      if !isReady then check tested
      resume outcome
termination_by structural fuel => fuel

/-- Carries out a command. What is to be done at signals is done before and after it. -/
def command : (fuel : Nat) → (tested final : Bool) → Command → Step Unit
  | 0, _, _, _ => stall
  | fuel + 1, tested, final, c => do
    if !(← get).isOn 'n' then
      attend fuel
      evaluate fuel tested final c
      attend fuel
      if isChecked c then check tested
    if final then throw .over
termination_by structural fuel => fuel

end

/-! ### Shells -/

/-- More than any script needs that comes to an end. -/
def plentiful : Nat := 1000000000000

/-- Runs a script that is read from a descriptor. -/
def script (descriptor : Nat) : Step Unit := input descriptor plentiful false false (Script.start [])

/-- All that a shell does. -/
def main (so : Start) : Step Unit := do
  let isInput := so.options.contains 's'
  match so.operands with
  | [] =>
    modify fun s => { s with options := State.turned 's' true s.options }
    script 0
  | first :: rest =>
    if so.hasText then
      modify fun s => { s with name := rest.headD s.name, parameters := rest.tail }
      text plentiful false (!isInput) false (Script.start first)
      if isInput then script 0
    else if isInput then
      modify fun s => { s with parameters := so.operands }
      script 0
    else
      let descriptor ← openCommands first
      modify fun s => { s with name := first, parameters := rest }
      script descriptor

/-- The program that a shell is. -/
def programOf (image : Image) : Program :=
  match Start.read image.arguments with
  | .error complaint =>
    Action.toProgram do
      let _ ← Action.write 2 (image.called ++ Bytes.ofString ": 0: " ++ complaint ++ ['\n'])
      return 2
  | .ok so =>
    (Start.state image.called image.environment) fun s =>
      Step.toProgram (whole plentiful (main so)) { s with options := so.options }

end Run

end Stopwatch.Shell
