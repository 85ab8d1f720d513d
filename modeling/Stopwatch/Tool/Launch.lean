import Stopwatch.System.Loader
import Stopwatch.Tool.Words

/-!
# Tools that run other programs

The tools that run a program in a changed environment, or for some time at most, and the one that sends signals.

- `Surroundings.readFrom`: the arguments of the tool that changes the environment;
- `become`: goes on as another program;
- `Watch`: how the tool with a time limit waits.
-/

namespace Stopwatch.Tool

open Stopwatch.System

/-- The status of a tool that cannot do its own work. -/
def ownFailure : Nat := 125

/-- The status if a program could not be started. -/
def statusOfStart (e : SystemError) : Nat := if e = .notFound then 127 else 126

/-- Goes on as another program; gives what is wrong with it, if that is not possible. -/
def become (environment : List (Bytes × Bytes)) (name : Bytes) (arguments : List Bytes) : Work SystemError := do
  let v ← ask .view
  match Loader.search (Loader.loadText v environment · name arguments) environment name with
  | .ok image => (Action.execute image : Action SystemError)
  | .error e => return e

/-- Goes on as the program that some words call; `saying` is said if that is not possible. -/
def becomeCommand (saying : String) : List Bytes → Errand
  | [] => missingOperand
  | name :: arguments => do
    let e ← become (← read).environment name arguments
    blame (quotedly saying name e)
    return statusOfStart e

/-- Runs a program that goes on when nobody listens any more. -/
def nohup : Errand :=
  withOrderedCall ⟨"", "", []⟩ ownFailure fun call => do
    if call.operands.isEmpty then misuse (Bytes.ofString "missing operand") ownFailure
    else
      ask (.heed 1 .ignore)
      becomeCommand "failed to run command " call.operands

/-- Runs a program with a lower priority. -/
def nice : Errand :=
  withOrderedCall ⟨"", "n", [("adjustment", 'n')]⟩ ownFailure fun call => do
    let isNumber (text : Bytes) : Bool := (Bytes.number? (text.dropWhile fun c => c = '-' || c = '+')).isSome
    match (call.options.map Prod.snd).find? (!isNumber ·), call.operands with
    | some text, _ =>
      blame (Bytes.ofString "invalid adjustment " ++ quote text)
      return ownFailure
    | none, [] =>
      if call.options.isEmpty then
        put ['0', '\n']
        return 0
      else misuse (Bytes.ofString "a command must be given with an adjustment") ownFailure
    | none, command => becomeCommand "" command

/-! ### Environments -/

/-- The words of a text, between blanks and without quotes; nothing if a quote is open at its end. `current` is the
word so far, reversed, if one has begun. -/
def splitWords (quotation : Option Char) (current : Option Bytes) : Bytes → Option (List Bytes)
  | [] => if quotation.isSome then none else some (current.toList.map List.reverse)
  | c :: cs =>
    match quotation with
    | some mark =>
      if c = mark then splitWords none current cs else splitWords quotation (some (c :: current.getD [])) cs
    | none =>
      if c = '"' || c = '\'' then splitWords (some c) (some (current.getD [])) cs
      else if isSpace c then
        (splitWords none none cs).map (current.toList.map List.reverse ++ ·)
      else splitWords none (some (c :: current.getD [])) cs

/-- What the arguments for a changed environment say. -/
structure Surroundings where
  options : List (Char × Bytes)
  assignments : List (Bytes × Bytes)
  command : List Bytes
deriving Repr, Inhabited

namespace Surroundings

/-- The options of the tool that changes the environment. -/
def known : Options :=
  ⟨"i0v", "uCS", [("ignore-environment", 'i'), ("null", '0'), ("unset", 'u'), ("chdir", 'C'),
    ("split-string", 'S'), ("debug", 'v')]⟩

/-- The assignments in front of a command, and the command. -/
def splitAssignments : List Bytes → List (Bytes × Bytes) × List Bytes
  | a :: rest =>
    if a.contains '=' then
      let name := a.takeWhile (· ≠ '=')
      let (more, command) := splitAssignments rest
      ((name, a.drop (name.length + 1)) :: more, command)
    else ([], a :: rest)
  | [] => ([], [])

/-- The arguments behind options. A dash stands for an option. -/
def ofOperands (operands : List Bytes) : Surroundings :=
  match operands with
  | ['-'] :: rest =>
    let (assignments, command) := splitAssignments rest
    ⟨[('i', [])], assignments, command⟩
  | _ =>
    let (assignments, command) := splitAssignments operands
    ⟨[], assignments, command⟩

/-- Goes on with the arguments behind some options. The value of the last one of them may be a text with more
arguments. -/
def proceed (readRest : List Bytes → Except Bytes Surroundings) (options : List (Char × Bytes))
    (rest : List Bytes) : Except Bytes Surroundings := do
  match options.getLast? with
  | some ('S', text) =>
    match splitWords none none text with
    | none => .error (Bytes.ofString "no terminating quote in -S string")
    | some words =>
      let more ← readRest (words ++ rest)
      return { more with options := options.dropLast ++ more.options }
  | _ =>
    let more ← readRest rest
    return { more with options := options ++ more.options }

/-- Reads arguments; `fuel` bounds the number of those with options. -/
def readFrom : (fuel : Nat) → List Bytes → Except Bytes Surroundings
  | fuel + 1, ('-' :: '-' :: c :: cs) :: rest => do
    let (option, rest) ← Call.readLong known (c :: cs) rest
    proceed (readFrom fuel) [option] rest
  | _, ['-', '-'] :: rest => .ok (ofOperands rest)
  | fuel + 1, ('-' :: c :: cs) :: rest => do
    let (options, rest) ← Call.readLetters known (c :: cs) rest
    proceed (readFrom fuel) options rest
  | _, operands => .ok (ofOperands operands)

/-- The environment that the command gets. -/
def environment (s : Surroundings) (given : List (Bytes × Bytes)) : List (Bytes × Bytes) :=
  let has (letter : Char) : Bool := s.options.any (·.1 = letter)
  let removed := (s.options.filter (·.1 = 'u')).map Prod.snd
  let kept := if has 'i' then [] else given.filter fun v => !removed.contains v.1
  s.assignments.foldl (fun bindings (name, value) =>
    if bindings.any (·.1 = name) then bindings.map fun v => if v.1 = name then (name, value) else v
    else bindings ++ [(name, value)]) kept

end Surroundings

/-- Goes to the directory that some options name; tells whether that was possible. -/
def enterDirectory (path? : Option Bytes) : Work Bool := do
  match path? with
  | none => return true
  | some path =>
    let outcome := match (← ask .view).follow path.toText .visit with
      | .ok (.found location .directory) => Except.ok location
      | .ok (.found _ _) => .error SystemError.notDirectory
      | .ok (.missing _) => .error .notFound
      | .error e => .error e
    match outcome with
    | .ok location =>
      ask (.enter location)
      return true
    | .error e =>
      blame (quotedly "cannot change directory to " path e)
      return false

/-- Runs a program in a changed environment, or shows that environment. -/
def env : Errand := do
  let image ← read
  match Surroundings.readFrom (image.arguments.length + 1000) image.arguments with
  | .error text => misuse text ownFailure
  | .ok s =>
    let has (letter : Char) : Bool := s.options.any (·.1 = letter)
    let environment := s.environment image.environment
    match s.command with
    | [] =>
      if has 'C' then misuse (Bytes.ofString "must specify command with --chdir (-C)") ownFailure
      else
        for (name, value) in environment do
          put (name ++ '=' :: value ++ [if has '0' then '\x00' else '\n'])
        return 0
    | name :: arguments =>
      if has '0' then misuse (Bytes.ofString "cannot specify --null (-0) with command") ownFailure
      else if !(← enterDirectory (s.options.reverse.lookup 'C')) then return ownFailure
      else
        let e ← become environment name arguments
        blame (quotedly "" name e)
        if e = .notFound && name.any isSpace then
          blame (Bytes.ofString "use -[v]S to pass options in shebang lines")
        return statusOfStart e

/-! ### Time limits -/

/-- How a program is watched whose time is limited. -/
structure Watch where
  /-- The number of the watched process. -/
  pid : Nat
  /-- The number of the process that tells when the time is over. -/
  clock : Option Nat
  signal : Signal
  /-- How long after the signal the program is killed. -/
  lastResort : Option Nat
  isOver : Bool
deriving Inhabited

namespace Watch

/-- The signal that tells that the time is over. -/
def alarm : Signal := 14

/-- The signals that are passed on. -/
def passed : List Signal := [1, 2, 3, 15]

/-- Starts a process that tells when a time is over. It holds no files, and nothing but its end stops it. -/
def startClock (duration : Nat) : Work (Option Nat) := do
  if duration = 0 then return none
  else
    let parent := (← ask .identity).pid
    let clock : Action Nat := do
      for signal in List.range 32 do
        Action.ask (.heed signal .ignore)
      for n in List.range 10 do
        Action.ask (.close n)
      Action.ask (.rest duration)
      let _ ← Action.ask (.send parent alarm)
      return 0
    return some (← (Action.fork clock.toProgram : Action _))

/-- Sends a signal to the program, and to all that belong to the group. -/
def pass (w : Watch) (isAlone : Bool) (signal : Signal) : Work Unit := do
  let send (signal : Signal) : Work Unit := do
    let _ ← ask (.send w.pid signal)
    if !isAlone then
      ask (.heed signal .ignore)
      let _ ← ask (.send 0 signal)
  send signal
  if signal ≠ .kill && signal ≠ .resume then send .resume

/-- What is done about a signal. -/
def onSignal (isAlone isLoud : Bool) (command : Bytes) (w : Watch) (signal : Signal) : Work Watch := do
  let isAlarm := signal = alarm
  let sent := if isAlarm then w.signal else signal
  let clock ← match w.lastResort with
    | some duration => startClock duration
    | none => pure w.clock
  if isLoud then
    blame (Bytes.ofString ("sending signal " ++ sent.name ++ " to command ") ++ quote command)
  w.pass isAlone sent
  return { w with
    clock, lastResort := none, isOver := w.isOver || isAlarm
    signal := if w.lastResort.isSome then .kill else w.signal }

/-- Waits for the program; `fuel` bounds the number of signals. -/
def wait (onSignal : Watch → Signal → Work Watch) : (fuel : Nat) → Watch → Work (Watch × System.Ending)
  | 0, w => return (w, .exited 0)
  | fuel + 1, w => do
    match ← ask (.await .untilSignal) with
    | .ended pid ending => if pid = w.pid then return (w, ending) else wait onSignal fuel w
    | .interrupted =>
      let signals ← ask .signals
      wait onSignal fuel (← signals.foldlM onSignal w)
    | _ => return (w, .exited ownFailure)

end Watch

/-- Runs a program for some time at most. -/
def timeout : Errand :=
  withOrderedCall ⟨"FPv", "ks", [("foreground", 'F'), ("preserve-status", 'P'), ("verbose", 'v'),
      ("kill-after", 'k'), ("signal", 's')]⟩ ownFailure fun call => do
    let advice : Errand := do
      complain (Bytes.ofString "Try '" ++ (← read).called ++ Bytes.ofString " --help' for more information.")
      return ownFailure
    let lengthOf? (text : Bytes) : Option Nat := if isForever text then some 0 else duration? text
    let interval (text : Bytes) : Errand := misuse (Bytes.ofString "invalid time interval " ++ quote text) ownFailure
    let signalText := (call.value? 's').getD "TERM".toList
    let signalText := if (Bytes.ofString "SIG").isPrefixOf signalText then signalText.drop 3 else signalText
    match (call.value? 'k').filter (fun text => (lengthOf? text).isNone), Signal.ofBytes? signalText,
      call.operands with
    | some text, _, _ => interval text
    | none, none, _ =>
      blame (quote ((call.value? 's').getD []) ++ Bytes.ofString ": invalid signal")
      advice
    | none, some signal, limit :: command :: arguments =>
      match lengthOf? limit with
      | none => interval limit
      | some limit =>
        let environment := (← read).environment
        let isAlone := call.has 'F'
        if !isAlone then ask .lead
        let child : Errand := do
          for signal in Watch.alarm :: Watch.passed do
            ask (.heed signal .usual)
          let e ← become environment command arguments
          blame (quotedly "failed to run command " command e)
          return statusOfStart e
        for signal in Watch.alarm :: Watch.passed do
          ask (.heed signal .notice)
        let pid ← (Action.fork (programOf child (← read)) : Action _)
        let clock ← Watch.startClock limit
        let watch : Watch := ⟨pid, clock, signal, (call.value? 'k').bind lengthOf?, false⟩
        let (w, ending) ← Watch.wait (Watch.onSignal isAlone (call.has 'v') command) plentiful watch
        if let some clock := w.clock then
          let _ ← ask (.send clock .kill)
        let isKilled := ending = .killed .kill
        if let .killed signal := ending then
          if !w.isOver then
            ask (.heed signal .usual)
            let _ ← ask (.send (← ask .identity).pid signal)
        return if w.isOver && !call.has 'P' && !isKilled then 124 else ending.status
    | none, some _, _ => advice

/-! ### Signals -/

/-- How signals are sent, as the tool tells it. -/
def killUsage : String :=
  "\nUsage:\n kill [options] <pid> [...]\n\nOptions:\n" ++
  " <pid> [...]            send signal to every <pid> listed\n" ++
  " -<signal>, -s, --signal <signal>\n" ++
  "                        specify the <signal> to be sent\n" ++
  " -q, --queue <value>    integer value to be sent with the signal\n" ++
  " -l, --list=[<signal>]  list all signal names, or convert one to a name\n" ++
  " -L, --table            list all signal names in a nice table\n\n" ++
  " -h, --help     display this help and exit\n" ++
  " -V, --version  output version information and exit\n\n" ++
  "For more details see kill(1)."

/-- A whole number with its sign. -/
def integer? : Bytes → Option Int
  | '-' :: digits => (Bytes.number? digits).map fun n => -(n : Int)
  | digits => (Bytes.number? digits).map fun n => (n : Int)

/-- The signal that a name or a number stands for. -/
def signal? (text : Bytes) : Option Signal :=
  Signal.ofBytes? (if (Bytes.ofString "SIG").isPrefixOf text then text.drop 3 else text)

/-- Sends a signal to processes. -/
def sendTo (signal : Signal) (operands : List Bytes) : Errand :=
  overOperands (fun operand => do
    match integer? operand with
    | none =>
      blame (Bytes.ofString "failed to parse argument: " ++ quote operand)
      return false
    | some target =>
      if ← ask (.send target signal) then return true
      blame ('(' :: operand ++ Bytes.ofString "): No such process")
      return false) operands

/-- Sends a signal to processes, or tells the names of signals. -/
def kill : Errand := do
  let usage : Errand := do
    complain (Bytes.ofString killUsage)
    return 1
  let send (signal : Bytes) (operands : List Bytes) : Errand := do
    let operands := if operands.head? = some ['-', '-'] then operands.tail else operands
    match signal? signal with
    | none =>
      blame (Bytes.ofString "invalid argument " ++ signal.take 1)
      usage
    | some signal => if operands.isEmpty then usage else sendTo signal operands
  match (← read).arguments with
  | [] => usage
  | [['-', 'l'], value] =>
    match signal? value with
    | some signal =>
      put (Bytes.ofString signal.name ++ ['\n'])
      return 0
    | none => usage
  | ['-', 's'] :: signal :: operands =>
    if (signal? signal).isSome then send signal operands
    else overOperands (fun operand => do
      blame ('(' :: operand ++ Bytes.ofString "): Invalid argument")
      return false) operands
  | ['-', '-'] :: operands => send "TERM".toList operands
  | ('-' :: signal) :: operands => send signal operands
  | operands => send "TERM".toList operands

end Stopwatch.Tool
