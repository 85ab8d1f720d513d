import Stopwatch.Shell.Builtin.Basic
import Stopwatch.Shell.Lookup

/-!
# Commands on variables

The commands that declare variables, make them local to a function, remove them, or move the parameters; and those
for aliases.
-/

namespace Stopwatch.Shell.Builtin

open Step (giveUp assign isName setStatus)

/-- Variables as assignments behind a word, in the order of their names. -/
def listing (word : String) (bindings : List (Bytes × Variable)) : Bytes :=
  let ordered := bindings.mergeSort fun a b => Bytes.inOrder a.1 b.1
  ordered.flatMap fun (name, v) =>
    Bytes.ofString word ++ name ++ (v.value.elim [] fun value => '=' :: Lookup.quoted value) ++ ['\n']

/-- Assigns where arguments have values, and changes what they name. -/
def declare (word : String) (isShown : Variable → Bool) (change : Variable → Variable)
    (arguments : List Bytes) : Step Unit := do
  let (found, names) ← options "p" arguments
  if names.isEmpty || has 'p' found then
    print (listing word ((← get).bindings.filter fun v => isShown v.2))
  else
    for a in names do
      let (name, value?) := splitAssignment a
      match value? with
      | some value => assign name value
      | none => if !isName name then giveUp (name ++ Bytes.ofString ": bad variable name")
      modify (·.changeVariable name change)
  setStatus 0

/-- Makes variables local to a function. They keep their values until they get others. -/
def localise (arguments : List Bytes) : Step Unit := do
  if (← get).calls = 0 then giveUp (Bytes.ofString "not in a function")
  for a in arguments do
    let (name, value?) := splitAssignment a
    if !isName name then giveUp (name ++ Bytes.ofString ": bad variable name")
    modify (·.covered name)
    if let some value := value? then assign name value
  setStatus 0

/-- Removes variables or functions. -/
def unset (arguments : List Bytes) : Step Unit := do
  let (found, names) ← options "vf" arguments
  for name in names do
    if (found.getLast?).any (·.1 = 'f') then
      modify fun s => { s with functions := s.functions.filter (·.1 ≠ name) }
    else
      if !isName name then giveUp (name ++ Bytes.ofString ": bad variable name")
      if ((← get).binding? name).any (·.fixed) then giveUp (name ++ Bytes.ofString ": is read only")
      modify fun s => (s.withoutVariable name).afterChange name []
  setStatus 0

/-- Moves the parameters to the front. -/
def shift (arguments : List Bytes) : Step Unit := do
  let n ← match arguments with
    | [] => pure 1
    | text :: _ => number text
  let s ← get
  if s.parameters.length < n then giveUp (Bytes.ofString "can't shift that many")
  set { s with parameters := s.parameters.drop n, status := 0, optionIndex := 1, optionOffset := none }

/-! ### Aliases -/

/-- An alias as an assignment. -/
def aliasLine (name text : Bytes) : Bytes := name ++ '=' :: Lookup.quoted text ++ ['\n']

/-- Keeps or shows what words stand for. -/
def setAliases (arguments : List Bytes) : Step Unit := do
  setStatus 0
  if arguments.isEmpty then
    let ordered := (← get).aliases.mergeSort fun a b => State.rank a.1 ≤ State.rank b.1
    print (ordered.flatMap fun a => aliasLine a.1 a.2)
  for a in arguments do
    match a with
    | [] => pure ()
    | first :: rest =>
      let (name, text?) := splitAssignment rest
      let name := first :: name
      match text? with
      | some text =>
        modify fun s => { s with aliases := s.aliases.filter (·.1 ≠ name) ++ [(name, text)] }
      | none =>
        match (← get).aliases.lookup a with
        | some text => print (aliasLine a text)
        | none =>
          Step.complain (Bytes.ofString "alias: " ++ a ++ Bytes.ofString " not found")
          setStatus 1

/-- Forgets what words stand for. -/
def dropAliases (arguments : List Bytes) : Step Unit := do
  let (found, names) ← options "a" arguments
  setStatus 0
  if has 'a' found then modify fun s => { s with aliases := [] }
  else
    for name in names do
      if ((← get).aliases.lookup name).isNone then
        Step.complain (Bytes.ofString "unalias: " ++ name ++ Bytes.ofString " not found")
        setStatus 1
      modify fun s => { s with aliases := s.aliases.filter (·.1 ≠ name) }

end Stopwatch.Shell.Builtin
