import Stopwatch.Shell.Lookup

/-!
# Starting shells

What the arguments of a shell ask for, and what a shell knows when it starts.

- `Start.read`: the arguments of a shell;
- `Start.state`: the state in which a shell starts.
-/

namespace Stopwatch.Shell

open Stopwatch.System (Action Disk View)

/-- What the arguments of a shell ask for. -/
structure Start where
  /-- The letters of the options that are on. -/
  options : Bytes
  /-- Whether the first operand is the text of a script, and not the file of one. -/
  hasText : Bool
  operands : List Bytes
deriving Repr, Inhabited

namespace Start

/-- Reads the letters of an argument, and the names of options behind it; fails with a complaint. -/
def readLetters (value : Bool) : Bytes → Start → Except Bytes Start
  | [], so => .ok so
  | 'c' :: letters, so => readLetters value letters { so with hasText := true }
  | 'l' :: letters, so => readLetters value letters so
  | letter :: letters, so =>
    let turn (letter : Char) (so : Start) : Start :=
      { so with options := State.turned letter value so.options }
    if letter = 'o' then
      match so.operands with
      | [] => readLetters value letters so
      | name :: rest =>
        match State.optionLetter? name with
        | none => .error (Bytes.ofString "Illegal option -o " ++ name)
        | some letter => readLetters value letters (turn letter { so with operands := rest })
    else if State.optionLetters.contains letter then readLetters value letters (turn letter so)
    else .error (Bytes.ofString "Illegal option -" ++ [letter])

/-- Reads the arguments of a shell; `fuel` bounds their number. -/
def readFrom : (fuel : Nat) → Start → Except Bytes Start
  | 0, so => .ok so
  | fuel + 1, so =>
    match so.operands with
    | ['-'] :: rest => .ok { so with operands := rest }
    | ['-', '-'] :: rest => .ok { so with operands := rest }
    | ('-' :: letters) :: rest => do readFrom fuel (← readLetters true letters { so with operands := rest })
    | ('+' :: letters) :: rest => do readFrom fuel (← readLetters false letters { so with operands := rest })
    | _ => .ok so

/-- Reads the arguments of a shell. -/
def read (arguments : List Bytes) : Except Bytes Start := do
  let so ← readFrom (arguments.length + 1) ⟨[], false, arguments⟩
  if so.hasText && so.operands.isEmpty then .error (Bytes.ofString "-c requires an argument") else .ok so

/-! ### The first state -/

/-- The number of the user who may do everything has its own prompt. -/
def prompts : List (String × String) := [("PS1", "# "), ("PS2", "> "), ("PS4", "+ ")]

/-- The path of the directory, if the environment tells it rightly. -/
def route (v : View) (environment : Environment) : Bytes :=
  let told := (environment.lookup "PWD".toList).getD []
  match told.head?, v.find? told.toText with
  | some '/', some (location, _) =>
    if location = v.directory then told else Bytes.ofString (Disk.pathOf v.directory)
  | _, _ => Bytes.ofString (Disk.pathOf v.directory)

/-- The variables that a shell starts with: its own ones, and those of the environment. -/
def bindings (environment : Environment) (parent : Nat) (route : Bytes) : List (Bytes × Variable) :=
  let put (isExported : Bool) (bindings : List (Bytes × Variable)) (b : Bytes × Bytes) :=
    let isKnown := ((bindings.lookup b.1).map (·.exported)).getD false
    State.putBinding b.1 ⟨some b.2, isExported || isKnown, false⟩ bindings
  let own := (prompts.map fun p => (Bytes.ofString p.1, Bytes.ofString p.2)) ++
    [(State.searchName, Lookup.usualPath)]
  let fixed := [("IFS".toList, [' ', '\t', '\n']), (State.optionIndexName, ['1']),
    ("PPID".toList, Bytes.decimal parent)]
  let given := environment.filter fun b => Step.isName b.1
  (fixed.foldl (put false) (given.foldl (put true) (own.foldl (put false) []))) |>
    fun bindings => put true bindings ("PWD".toList, route)

/-- The state in which a shell starts. It looks whether it was interrupted. -/
def state (name : Bytes) (environment : Environment) : Action State := do
  let me ← Action.ask .identity
  let v ← Action.ask .view
  let deaf ← Action.ask .ignored
  if !deaf.contains System.Signal.interrupt then Action.ask (.heed System.Signal.interrupt .notice)
  let route := route v environment
  return { (default : State) with
    name
    bindings := bindings environment me.parent route
    route
    pid := me.pid
    deaf
    optionIndex := 1
    display := 2 }

end Start

end Stopwatch.Shell
