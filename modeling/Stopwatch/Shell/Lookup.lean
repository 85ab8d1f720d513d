import Stopwatch.Shell.Reader
import Stopwatch.Shell.Step

/-!
# Looking up commands

What the name of a command stands for: a word of the syntax, an alias, a function, a command of the shell itself, or
a program in the directories of the search variable.

- `Lookup.special`, `Lookup.builtins`: the commands of the shell;
- `Lookup.locate`: the program that a name stands for;
- `Lookup.describe`: what is told about a name.
-/

namespace Stopwatch.Shell.Lookup

open Stopwatch.System
open Step (ask)

/-- The commands whose mistakes end the shell. -/
def special : List String := "local" :: Reader.specialCommands

/-- The commands that are part of the shell. -/
def builtins : List String :=
  special ++ ["[", "alias", "bg", "cd", "chdir", "command", "echo", "false", "fg", "getopts", "hash",
    "jobs", "kill", "printf", "pwd", "read", "test", "true", "type", "ulimit", "umask", "unalias", "wait"]

/-- The commands that take assignments as arguments. -/
def declaring : List String := ["alias", "export", "local", "readonly"]

def isSpecial (name : Bytes) : Bool := special.contains (String.ofList name)

def isBuiltin (name : Bytes) : Bool := builtins.contains (String.ofList name)

def isDeclaring (name : Bytes) : Bool := declaring.contains (String.ofList name)

def isKeyword (name : Bytes) : Bool := Reader.reservedWords.contains (String.ofList name)

/-- Where programs are looked for if nobody says it. -/
def usualPath : Bytes := Bytes.ofString "/usr/local/sbin:/usr/local/bin:/usr/sbin:/usr/bin:/sbin:/bin"

/-- Whether nothing is at a place for a reason that does not count. -/
def isAbsence (e : SystemError) : Bool := e = .notFound || e = .notDirectory

/-- The first of some paths at which a program is, or what was wrong with the last one that counts. -/
def firstProgram (v : View) (mistake : SystemError) : List Bytes → Except SystemError Bytes
  | [] => .error mistake
  | path :: rest =>
    match v.follow path.toText .visit with
    | .error e => firstProgram v (if isAbsence e then mistake else e) rest
    | .ok (.missing _) => firstProgram v mistake rest
    | .ok (.found _ node) =>
      if Disk.isFileNode node && Loader.isExecutable v.disk node then .ok path
      else firstProgram v .permissionDenied rest

/-- The program that a name stands for in the directories of a search path. -/
def locate (v : View) (search name : Bytes) : Except SystemError Bytes :=
  firstProgram v .notFound (Loader.candidates search name)

/-- The program that a name stands for. A path stands for itself. -/
def path? (v : View) (search name : Bytes) : Option Bytes :=
  if name.contains '/' then if (v.find? name.toText).isSome then some name else none
  else (locate v search name).toOption

/-- The words for what is wrong with a program. -/
def reason (e : SystemError) : Bytes := Bytes.ofString (if isAbsence e then "not found" else e.description)

/-- A text in quotes that the shell reads back. -/
def quoted (text : Bytes) : Bytes :=
  let inner := text.flatMap fun c => if c = '\'' then "'\"'\"'".toList else [c]
  '\'' :: inner ++ ['\'']

/-- What is told about a name, shortly or at length; nothing if it stands for nothing. -/
def describe (s : State) (v : View) (search : Bytes) (isLong : Bool) (name : Bytes) : Option Bytes :=
  let say (short : Bytes) (long : String) : Option Bytes :=
    some (if isLong then name ++ Bytes.ofString long else short)
  if isKeyword name then say name " is a shell keyword"
  else match s.aliases.lookup name with
  | some text =>
    some (if isLong then name ++ Bytes.ofString " is an alias for " ++ text
      else Bytes.ofString "alias " ++ name ++ '=' :: quoted text)
  | none =>
    if (s.functions.lookup name).isSome then say name " is a shell function"
    else if isSpecial name then say name " is a special shell builtin"
    else if isBuiltin name then say name " is a shell builtin"
    else match s.located.lookup name with
      | some path => say path (" is a tracked alias for " ++ path.toText)
      | none => (path? v search name).bind fun path => say path (" is " ++ path.toText)

/-- Keeps where a program is. -/
def keep (name path : Bytes) : Step Unit :=
  modify fun s => if name.contains '/' then s else { s with located := (name, path) :: s.located.filter (·.1 ≠ name) }

end Stopwatch.Shell.Lookup
