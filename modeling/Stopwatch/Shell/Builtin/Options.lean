import Stopwatch.Shell.Builtin.Variable

/-!
# Commands on options

The command that sets the options and parameters of a shell, and the one that reads the options among
parameters.

- `setParameters`: sets options and parameters;
- `nextOption`: the next option of some arguments, from the place where the last one ended.
-/

namespace Stopwatch.Shell.Builtin

open Step (blame giveUp assign setStatus)

/-- The lines that tell which options are on. -/
def optionTable (s : State) : Bytes :=
  let line (name : String) (isOn : Bool) : Bytes :=
    Bytes.ofString (name ++ String.ofList (List.replicate (16 - name.length) ' ')) ++
      Bytes.ofString (if isOn then "on\n" else "off\n")
  Bytes.ofString "Current option settings\n" ++
    ((State.optionNames.zip State.optionLetters).flatMap fun o => line o.1 (s.isOn o.2)) ++
    line "nolog" false ++ line "debug" false

/-- The commands that set the options as they are. -/
def optionCommands (s : State) : Bytes :=
  ((State.optionNames.zip State.optionLetters).flatMap fun o =>
    Bytes.ofString ("set " ++ (if s.isOn o.2 then "-o " else "+o ") ++ o.1 ++ "\n")) ++
    Bytes.ofString "set +o nolog\nset +o debug\n"

/-- Turns an option on or off. -/
def setOption (letter : Char) (value : Bool) : Step Unit :=
  modify fun s => { s with options := State.turned letter value s.options }

/-- Turns options on or off as their letters say. The letter `o` stands for an option that is named by the
next argument; gives the arguments that are left. -/
def setOptions (value : Bool) : Bytes → List Bytes → Step (List Bytes)
  | [], rest => return rest
  | 'o' :: letters, name :: rest => do
    match State.optionLetter? name with
    | none => giveUp (Bytes.ofString "Illegal option -o " ++ name)
    | some letter =>
      setOption letter value
      setOptions value letters rest
  | 'o' :: letters, [] => do
    let s ← get
    print (if value then optionTable s else optionCommands s)
    setOptions value letters []
  | letter :: letters, rest => do
    if State.optionLetters.contains letter then
      setOption letter value
      setOptions value letters rest
    else giveUp (Bytes.ofString "Illegal option -" ++ [letter])

/-- Sets the parameters. Options are read from the first one on. -/
def takeParameters (parameters : List Bytes) : Step Unit :=
  modify fun s => { s with parameters, optionIndex := 1, optionOffset := none }

/-- Sets options, and the parameters if there are any behind them; `fuel` bounds the number of arguments. -/
def setParametersFrom : (fuel : Nat) → List Bytes → Step Unit
  | 0, _ => return
  | _, [] => return
  | _, ['-', '-'] :: rest => takeParameters rest
  | _, ['-'] :: rest => do
    setOption 'x' false
    setOption 'v' false
    if !rest.isEmpty then takeParameters rest
  | fuel + 1, ('-' :: letters) :: rest => do setParametersFrom fuel (← setOptions true letters rest)
  | fuel + 1, ('+' :: letters) :: rest => do setParametersFrom fuel (← setOptions false letters rest)
  | _, parameters => takeParameters parameters

/-- Sets options and parameters, or shows the variables. Nobody controls the jobs of a script. -/
def setParameters (arguments : List Bytes) : Step Unit := do
  if arguments.isEmpty then
    print (listing "" ((← get).bindings.filter fun v => v.2.value.isSome))
  setParametersFrom (arguments.length + 1) arguments
  if (← get).isOn 'm' then
    blame (Bytes.ofString "can't access tty; job control turned off")
    setOption 'm' false
  setStatus 0

/-- What reading an option gives. -/
structure NextOption where
  /-- The letter of the option, or a mark that there is none. -/
  letter : Char
  value : Option Bytes
  complaint : Option String
  /-- The number of the argument at which to go on, counted from one. -/
  index : Nat
  /-- How much of the argument before it has been read, if there may be more of it. -/
  offset : Option Nat
  isEnd : Bool

/-- Reads the option whose letter a text starts with; behind that text `index` is the next argument. -/
def readOption (known : Bytes) (arguments : List Bytes) (index : Nat) (text : Bytes) : NextOption :=
  let isQuiet := known.head? = some ':'
  let c := text.headD '?'
  let rest := text.tail
  let consumed := ((arguments[index - 2]?).getD []).length - rest.length
  let failed (letter : Char) (complaint : String) : NextOption :=
    ⟨if isQuiet then letter else '?', if isQuiet then some [c] else none,
      if isQuiet then none else some complaint, index, some consumed, false⟩
  match known.dropWhile fun k => k ≠ c || k = ':' with
  | [] => failed '?' ("Illegal option -" ++ String.ofList [c])
  | _ :: ':' :: _ =>
    if !rest.isEmpty then ⟨c, some rest, none, index, none, false⟩
    else match arguments[index - 1]? with
      | some value => ⟨c, some value, none, index + 1, none, false⟩
      | none => failed ':' ("No arg for -" ++ String.ofList [c] ++ " option")
  | _ => ⟨c, some [], none, index, some consumed, false⟩

/-- Looks for the next option, from the place where the last one ended. -/
def nextOption (known : Bytes) (arguments : List Bytes) (index : Nat) (offset : Option Nat) : NextOption :=
  let current := (offset.bind fun n => (arguments[index - 2]?).map (·.drop n)).getD []
  if 1 < index && !current.isEmpty then readOption known arguments index current
  else match arguments[index - 1]? with
    | some ['-', '-'] => ⟨'?', none, none, index + 1, none, true⟩
    | some ('-' :: c :: cs) => readOption known arguments (index + 1) (c :: cs)
    | _ => ⟨'?', none, none, index, none, true⟩

/-- Reads the next option of the parameters, or of some arguments. -/
def getOption : List Bytes → Step Unit
  | known :: name :: more => do
    let s ← get
    let arguments := if more.isEmpty then s.parameters else more
    let (index, offset) := if arguments.length + 1 < s.optionIndex then (1, none)
      else (s.optionIndex, s.optionOffset)
    let next := nextOption known arguments index offset
    if let some text := next.complaint then Step.complain (Bytes.ofString text)
    if !next.isEnd then
      match next.value with
      | some value => assign "OPTARG".toList value
      | none => modify (·.withoutVariable "OPTARG".toList)
    modify (·.changeVariable State.optionIndexName fun v => { v with value := some (Bytes.decimal next.index) })
    modify fun s => { s with optionIndex := next.index, optionOffset := next.offset }
    assign name [next.letter]
    setStatus (if next.isEnd then 1 else 0)
  | _ => giveUp (Bytes.ofString "Usage: getopts optstring var [arg...]")

end Stopwatch.Shell.Builtin
