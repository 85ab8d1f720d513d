import Stopwatch.CommandLine.Mistake

/-!
# Arguments

The options and words on a level of a command line. An option has its value after an equals sign or in the
next argument, which must not look like an option. After two dashes everything is a word.

- `Level.scan`: the options and words of one level of a command line;
- `Level.settle`: the values that hold once the environment has had its say.
-/

namespace Stopwatch.CommandLine

/-- The values that options were given, in order; those without a value have an empty one. -/
abbrev Given := List (String × String)

/-- All values of an option. -/
def Given.values (given : Given) (name : String) : List String :=
  (given.filter (·.1 = name)).map (·.2)

/-- The only value of an option. -/
def Given.value? (given : Given) (name : String) : Option String := (given.values name).head?

/-- What a level was given: options, words, and the arguments of the next level if a command ended this
one. -/
structure Scanned where
  given : Given
  words : List String
  next : Option (String × List String)
deriving Repr, Inhabited

namespace Level

/-- Ends the reading with a mistake. -/
def refuse {α : Type} (m : Mistake) : Except Stop α := .error (.mistake m)

/-! ### Options -/

/-- Adds a value to what was given. The options for help and for the version are carried out at once. -/
def add (level : Level) (isLong : Bool) (switch : Switch) (value : String) (so : Scanned) :
    Except Stop Scanned :=
  if switch.name = helpSwitch.name then .error (.help level.name isLong)
  else if switch.name = versionSwitch.name then .error .version
  else if !switch.arity.mayRepeat && !(so.given.values switch.name).isEmpty then
    refuse (.repeated switch.shown level.generalUsage)
  else match if switch.arity.takesValue then switch.refusal? value else none with
    | some r => refuse (.ofRefusal switch value r)
    | none => .ok { so with given := so.given ++ [(switch.name, value)] }

/-- Whether an argument looks like an option. -/
def isOptionLike (argument : String) : Bool :=
  match argument.toList with
  | '-' :: _ :: _ => true
  | _ => false

/-- What one argument asks for. -/
inductive Reading where
  | done (so : Scanned)
  /-- The value of an option is in the next argument. -/
  | wants (switch : Switch) (so : Scanned)

/-- The commands among the arguments that are left, in their order, that know an option like the one with a
name, each with that option. -/
def commandsWith (level : Level) (name : String) (rest : List String) : List (String × String) :=
  rest.filterMap fun argument => do
    let options ← level.commands.lookup argument
    return (argument, ← Mistake.mostSimilar? name options.2)

/-- The tip to write an argument after two dashes, where words are taken. -/
def wordTip (level : Level) (text : String) : List String :=
  if level.words.isEmpty then [] else ["to pass '" ++ text ++ "' as a value, use '-- " ++ text ++ "'"]

/-- The mistake of an option with a long name that the level does not know. -/
def unknownLong (level : Level) (name : String) (rest : List String) (so : Scanned) : Mistake :=
  let meant := so.given.map Prod.fst
  let text := "--" ++ name
  match Mistake.mostSimilar? name (level.allSwitches.map Switch.name) with
  | some other =>
    .unknownArgument text (Mistake.similarTip "argument" ["--" ++ other])
      (level.usage (meant ++ [other]) (!so.words.isEmpty))
  | none =>
    let tips := level.wordTip text ++
      ((level.commandsWith name rest).head?.map fun (command, option) =>
        "'" ++ command ++ " --" ++ option ++ "' exists").toList
    .unknownArgument text tips (level.usage meant (!so.words.isEmpty))

/-- Reads an option with its long name, and with its value if there is an equals sign. -/
def readLong (level : Level) (text : List Char) (rest : List String) (so : Scanned) :
    Except Stop Reading :=
  let chars := text.takeWhile (· ≠ '=')
  let name := String.ofList chars
  match level.byName? name, (text.drop chars.length).tail?.map String.ofList with
  | some switch, some value =>
    if switch.arity.takesValue then (level.add true switch value so).map .done
    else refuse (.extraValue switch.shown value
      (level.usage (so.given.map Prod.fst) (!so.words.isEmpty)))
  | some switch, none =>
    if switch.arity.takesValue then .ok (.wants switch so) else (level.add true switch "" so).map .done
  | none, _ => refuse (level.unknownLong name rest so)

/-- Reads options that are given by letters. The letters after one that takes a value are its value. -/
def readLetters (level : Level) : List Char → Scanned → Except Stop Reading
  | [], so => .ok (.done so)
  | c :: cs, so =>
    match level.byLetter? c with
    | some switch =>
      if switch.arity.takesValue then
        if cs.isEmpty then .ok (.wants switch so)
        else
          let value := if cs.head? = some '=' then cs.tail else cs
          (level.add false switch (String.ofList value) so).map .done
      else match level.add false switch "" so with
        | .ok so => readLetters level cs so
        | .error e => .error e
    | none =>
      let text := String.ofList ['-', c]
      refuse (.unknownArgument text (level.wordTip text) level.generalUsage)

/-- Reads an argument that looks like an option. -/
def readOption (level : Level) (argument : String) (rest : List String) (so : Scanned) :
    Except Stop Reading :=
  match argument.toList with
  | '-' :: '-' :: text => level.readLong text rest so
  | '-' :: letters => level.readLetters letters so
  | _ => .ok (.done so)

/-! ### Words -/

/-- The mistake of a word for which there is no place. -/
def noPlace (level : Level) (word : String) (afterDashes : Bool) : Mistake :=
  if level.commands.isEmpty then .unknownArgument word [] level.generalUsage
  else if afterDashes && level.commandNames.contains word then
    .unknownArgument word
      ["subcommand '" ++ word ++ "' exists; to use it, remove the '--' before it"] level.generalUsage
  else .unknownCommand word (Text.Similarity.alike word level.commandNames) level.generalUsage

/-- Takes a word, unless the level has no place for it. -/
def takeWord (level : Level) (afterDashes : Bool) (word : String) (so : Scanned) : Except Stop Scanned :=
  match level.shownWords[so.words.length]? with
  | none => refuse (level.noPlace word afterDashes)
  | some place =>
    if word = "" then refuse (.missingValue place []) else .ok { so with words := so.words ++ [word] }

/-- Takes words to the end. -/
def takeWords (level : Level) : List String → Scanned → Except Stop Scanned
  | [], so => .ok so
  | word :: rest, so => do
    let so ← level.takeWord true word so
    takeWords level rest so

/-! ### Levels -/

/-- The mistake of an option that gets no value because an option follows. If that one is unknown, or has a
value that it does not take, this is told first. -/
def interrupted (level : Level) (switch : Switch) (argument : String) (rest : List String)
    (so : Scanned) : Mistake :=
  let missing := Mistake.missingValue switch.shown (switch.choices.map Prod.fst)
  if argument = "--" then
    match rest with
    | word :: _ => if level.words.isEmpty then level.noPlace word true else missing
    | [] => missing
  else match level.readOption argument rest so with
    | .error (.mistake (.unknownArgument text tips usage)) =>
      if (argument.toList.drop 1).head?.any fun c => (level.byLetter? c).isSome then missing
      else .unknownArgument text tips usage
    | .error (.mistake (.extraValue place value usage)) => .extraValue place value usage
    | _ => missing

/-- Reads arguments; `pending` waits for its value. -/
def scanFrom (level : Level) (pending : Option Switch) : List String → Scanned → Except Stop Scanned
  | [], so => match pending with
    | none => .ok so
    | some switch => refuse (.missingValue switch.shown (switch.choices.map Prod.fst))
  | argument :: rest, so =>
    match pending with
    | some switch =>
      if isOptionLike argument then refuse (level.interrupted switch argument rest so)
      else match level.add true switch argument so with
        | .error e => .error e
        | .ok so => scanFrom level none rest so
    | none =>
      if argument = "--" then level.takeWords rest so
      else if isOptionLike argument then
        match level.readOption argument rest so with
        | .error e => .error e
        | .ok (.done so) => scanFrom level none rest so
        | .ok (.wants switch so) => scanFrom level (some switch) rest so
      else if level.commandNames.contains argument then .ok { so with next := some (argument, rest) }
      else match level.takeWord false argument so with
        | .error e => .error e
        | .ok so => scanFrom level none rest so

/-- Reads the arguments of a level. -/
def scan (level : Level) (arguments : List String) : Except Stop Scanned :=
  scanFrom level none arguments ⟨[], [], none⟩

/-- The value that the environment gives to an option that was not given one. -/
def fallback? (environment : String → Option String) (given : Given) (switch : Switch) :
    Option String :=
  if (given.values switch.name).isEmpty then switch.fallback.bind environment else none

/-- What the environment gives to the options of a level that were not given anything. A value that makes
no sense is a mistake wherever it comes from. -/
def fallbacks (environment : String → Option String) (given : Given) :
    List Switch → Except Stop Given
  | [] => .ok []
  | switch :: rest =>
    match fallback? environment given switch with
    | none => fallbacks environment given rest
    | some value =>
      match switch.refusal? value with
      | none => do
        let more ← fallbacks environment given rest
        return (switch.name, value) :: more
      | some r => refuse (.ofRefusal switch value r)

/-- The options that have to be given and were not. -/
def missing (level : Level) (given : Given) : List Switch :=
  level.required.filter fun s => (given.values s.name).isEmpty

/-- The options of a level with the help of the environment. -/
def settle (level : Level) (environment : String → Option String) (so : Scanned) :
    Except Stop Given := do
  let more ← fallbacks environment so.given level.switches
  let given := so.given ++ more
  let places := (level.missing given).map Switch.shown ++ level.shownWords.drop so.words.length
  if places.isEmpty then return given
  else
    refuse (.missing places
      (level.usage ((given ++ (level.missing given).map fun s => (s.name, "")).map Prod.fst)
        (!level.words.isEmpty)))

end Level

end Stopwatch.CommandLine
