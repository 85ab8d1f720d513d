import Stopwatch.CommandLine.Value

/-!
# Options

An option has a long name and perhaps a letter; what it takes is its `Arity`. A level of a command line is
what stands before a command or behind it: its options, its words, and the commands that it leads to.

- `Switch`: the description of an option;
- `Level`: the description of a level;
- `Level.usage`: the line that shows how a level is used.
-/

namespace Stopwatch.CommandLine

/-- What an option takes, and how often it may be given. -/
inductive Arity where
  /-- Nothing, at most once. -/
  | flag
  /-- Nothing, any number of times. -/
  | counter
  /-- A value, at most once. -/
  | single
  /-- A value, any number of times. -/
  | many
deriving DecidableEq, Repr, Inhabited

namespace Arity

def takesValue : Arity → Bool
  | flag => false
  | counter => false
  | single => true
  | many => true

def mayRepeat : Arity → Bool
  | flag => false
  | counter => true
  | single => false
  | many => true

end Arity

/-- The description of an option. -/
structure Switch where
  name : String
  letter : Option Char
  arity : Arity
  /-- What stands for its value where the option is shown. -/
  placeholder : String
  /-- What it is for. -/
  about : String
  /-- The environment variable that stands in for the option. -/
  fallback : Option String
  /-- The value that holds if there is no other. -/
  standard? : Option String
  /-- The values to choose from, with what is said about them. -/
  choices : List (String × String)
  /-- Why a text is refused as its value, if it is. -/
  refusal? : String → Option Refusal
  /-- Whether there has to be a value. -/
  isRequired : Bool
deriving Inhabited

namespace Switch

/-- The environment variable of an option. -/
def variableOf (name : String) : String := "RUNTIME_BENCH_" ++ name

/-- An option with a value that is given at most once. -/
def single {α : Type} (name placeholder about : String) (read : String → Except Refusal α) : Switch where
  name
  letter := none
  arity := .single
  placeholder
  about
  fallback := none
  standard? := none
  choices := []
  refusal? text := match read text with
    | .ok _ => none
    | .error e => some e
  isRequired := false

/-- An option without a value. -/
def bare (name about : String) (letter : Option Char) (arity : Arity) : Switch :=
  { single name "" about Value.text with letter, arity }

/-- The same option with an environment variable. -/
def orVariable (ending : String) (s : Switch) : Switch := { s with fallback := some (variableOf ending) }

/-- The same option with a value that holds if there is no other. -/
def orElse (value : String) (s : Switch) : Switch := { s with standard? := some value }

/-- The same option with the values to choose from. -/
def among (choices : List (String × String)) (s : Switch) : Switch := { s with choices }

/-- The same option, which may be given any number of times. -/
def repeatedly (s : Switch) : Switch := { s with arity := .many }

/-- The same option, which has to be given. -/
def demanded (s : Switch) : Switch := { s with isRequired := true }

/-- An option as it is shown. -/
def shown (s : Switch) : String :=
  "--" ++ s.name ++
    match s.arity with
    | .flag => ""
    | .counter => "..."
    | .single => " <" ++ s.placeholder ++ ">"
    | .many => " <" ++ s.placeholder ++ ">"

end Switch

/-- The option that asks for help. -/
def helpSwitch : Switch := .bare "help" "Print help" (some 'h') .flag

/-- The option that asks for the version. -/
def versionSwitch : Switch := .bare "version" "Print version" (some 'V') .flag

/-- A level of a command line: the options that it knows, the words that it takes, and the commands that it
leads to. A level with commands takes no words. -/
structure Level where
  /-- The program, with the command that leads to this level. -/
  name : String
  about : String
  switches : List Switch
  /-- How many of the options are its own; the others are those of the level above. -/
  ownSwitches : Nat
  /-- Whether the version can be asked for. -/
  tellsVersion : Bool
  /-- The names of the words that it takes. -/
  words : List String
  /-- The commands, each with what it does and the names of its options. -/
  commands : List (String × String × List String)
deriving Inhabited

namespace Level

/-- All options, also those that every level has. -/
def allSwitches (level : Level) : List Switch :=
  level.switches ++ helpSwitch :: if level.tellsVersion then [versionSwitch] else []

def byName? (level : Level) (name : String) : Option Switch := level.allSwitches.find? (·.name = name)

def byLetter? (level : Level) (letter : Char) : Option Switch :=
  level.allSwitches.find? (·.letter = some letter)

/-- The names of the commands. -/
def commandNames (level : Level) : List String := level.commands.map Prod.fst

/-- The options that have to be given. -/
def required (level : Level) : List Switch := level.switches.filter Switch.isRequired

/-- The words as they are shown. -/
def shownWords (level : Level) : List String := level.words.map fun w => "<" ++ w ++ ">"

/-- How a level is used in general: with some options, those that have to be given, and its words or a
command. -/
def generalUsage (level : Level) : String :=
  " ".intercalate ([level.name, "[OPTIONS]"] ++ level.required.map Switch.shown ++ level.shownWords ++
    if level.commands.isEmpty then [] else ["[COMMAND]"])

/-- How a level is used with some options that were meant, each shown once. Without any it is the usage in
general. -/
def usage (level : Level) (meant : List String) (hasWords : Bool) : String :=
  if meant.isEmpty && !hasWords then level.generalUsage
  else
    let required := level.required.map Switch.name
    let others := meant.eraseDups.filter fun n => !required.contains n
    " ".intercalate (level.name :: ((required ++ others).filterMap level.byName?).map Switch.shown ++
      level.shownWords)

end Level

end Stopwatch.CommandLine
