import Stopwatch.Shell.Builtin.Basic

/-!
# Commands on the directory

Where a shell is: two dots lead back along the path on which it came, also if there are links on it. Here are also
the permissions that new files do not get.

- `routeTo`: the path on which a shell comes to another directory;
- `changeDirectory`, `printDirectory`: the commands;
- `maskAfter?`: the permissions that a mode takes away.
-/

namespace Stopwatch.Shell.Builtin

open Stopwatch.System (Disk Location View)
open Step (ask giveUp setStatus)

/-! ### Routes -/

/-- The path on which a shell comes to a target. Two slashes at its start are kept. -/
def routeTo (route target : Bytes) : Bytes :=
  let path := if target.head? = some '/' then target
    else route ++ (if route.getLast? = some '/' then target else '/' :: target)
  let root : Bytes := match path with
    | '/' :: '/' :: '/' :: _ => ['/']
    | '/' :: '/' :: _ => ['/', '/']
    | _ => ['/']
  let names := (Bytes.split '/' path).foldl (fun (names : List Bytes) name =>
    if name = [] || name = ['.'] then names
    else if name = ['.', '.'] then names.tail
    else name :: names) []
  root ++ ['/'].intercalate names.reverse

/-- The place that a shell goes to, with its path, if it is a directory. -/
def destination? (v : View) (isPhysical : Bool) (route target : Bytes) : Option (Location × Bytes) :=
  let path := if isPhysical then target else routeTo route target
  match v.find? path.toText with
  | some (location, .directory) =>
    some (location, if isPhysical then Bytes.ofString (Disk.pathOf location) else path)
  | _ => none

/-- Whether a target is not looked for in other directories. -/
def isFixed (target : Bytes) : Bool :=
  match target with
  | '/' :: _ => true
  | '.' :: '.' :: rest => rest.isEmpty || rest.head? = some '/'
  | '.' :: rest => rest.isEmpty || rest.head? = some '/'
  | _ => false

/-- The paths that a target stands for, and whether the shell tells where it has gone. -/
def candidates (search? : Option Bytes) (target : Bytes) : List (Bytes × Bool) :=
  match search? with
  | none => []
  | some search =>
    (Bytes.split ':' search).map fun d => if d.isEmpty then (target, false) else (d ++ '/' :: target, true)

/-- Goes to a directory. -/
def changeDirectory (arguments : List Bytes) : Step Unit := do
  let (found, operands) ← options "LP" arguments
  let s ← get
  let isPhysical := (found.getLast?).any (·.1 = 'P')
  let isBack := operands.head? = some ['-']
  let target := match operands with
    | [] => s.valueOf "HOME"
    | first :: _ => if isBack then s.valueOf "OLDPWD" else first
  let v ← ask .view
  let tried := if isFixed target then [] else
    candidates (s.valueOf? "CDPATH".toList) (if target.isEmpty then ['.'] else target)
  let target := if target.isEmpty then ['.'] else target
  let (path, isTold) := ((tried.find? fun t => v.isDirectory t.1.toText).getD (target, false))
  match destination? v isPhysical s.route path with
  | none => giveUp (Bytes.ofString "can't cd to " ++ target)
  | some (location, route) =>
    ask (.enter location)
    modify fun s => { s with route }
    modify fun after => (after.withVariable "OLDPWD".toList s.route).withVariable "PWD".toList route
    modify fun after => ["OLDPWD", "PWD"].foldl (fun after name =>
      after.changeVariable name.toList fun v => { v with exported := true }) after
    if isBack || isTold then print (route ++ ['\n'])
    setStatus 0

/-- Prints the directory. -/
def printDirectory (arguments : List Bytes) : Step Unit := do
  let (found, _) ← options "LP" arguments
  let route ← if (found.getLast?).any (·.1 = 'P') then
      pure (Bytes.ofString (Disk.pathOf (← ask .view).directory))
    else pure (← get).route
  tell (route ++ ['\n'])

/-! ### Permissions -/

/-- The permissions of some letters, in each place of a mode. -/
def permissionsOf (current : Nat) (letters : Bytes) : Nat :=
  letters.foldl (fun n c => n ||| (match c with
    | 'r' => 0o444
    | 'w' => 0o222
    | 'x' => 0o111
    | 'X' => 0o111
    | 'u' => (current / 0o100 % 8) * 0o111
    | 'g' => (current / 0o10 % 8) * 0o111
    | 'o' => (current % 8) * 0o111
    | _ => 0)) 0

/-- The places that some letters stand for; all if there are none. -/
def placesOf (letters : Bytes) : Nat :=
  if letters.isEmpty || letters.contains 'a' then 0o777
  else letters.foldl (fun n c => n ||| (match c with
    | 'u' => 0o700
    | 'g' => 0o070
    | 'o' => 0o007
    | _ => 0)) 0

/-- Goes over the changes of some places; `fuel` bounds their number. -/
def changesFrom (places : Nat) : (fuel : Nat) → (mode : Nat) → Bytes → Option Nat
  | 0, _, _ => none
  | _, mode, [] => some mode
  | fuel + 1, mode, sign :: rest =>
    let letters := rest.takeWhile fun c => "rwxXstugo".toList.contains c
    let permissions := permissionsOf mode letters &&& places
    let after := rest.drop letters.length
    match sign with
    | '+' => changesFrom places fuel (mode ||| permissions) after
    | '-' => changesFrom places fuel (mode &&& (0o777 ^^^ permissions)) after
    | '=' => changesFrom places fuel ((mode &&& (0o777 ^^^ places)) ||| permissions) after
    | _ => none

/-- A mode after one clause of changes. -/
def clause (mode : Nat) (text : Bytes) : Option Nat :=
  let letters := text.takeWhile fun c => "ugoa".toList.contains c
  match text.drop letters.length with
  | [] => none
  | rest => changesFrom (placesOf letters) (rest.length + 1) mode rest

/-- A mode after changes that are written with letters. -/
def modeAfter? (mode : Nat) (text : Bytes) : Option Nat :=
  (Bytes.split ',' text).foldl (fun mode part => mode.bind fun m => clause m part) (some mode)

/-- The permissions of a place in letters. -/
def lettersOf (n : Nat) : Bytes :=
  (if n &&& 4 ≠ 0 then ['r'] else []) ++ (if n &&& 2 ≠ 0 then ['w'] else []) ++ if n &&& 1 ≠ 0 then ['x'] else []

/-- Sets or shows the permissions that new files do not get. -/
def changeMask (arguments : List Bytes) : Step Unit := do
  let (found, operands) ← options "S" arguments
  let mask ← ask (.mask none)
  let mode := 0o777 ^^^ mask
  match operands with
  | [] =>
    if has 'S' found then
      tell ("u=".toList ++ lettersOf (mode / 64) ++ ",g=".toList ++ lettersOf (mode / 8 % 8) ++ ",o=".toList ++
        lettersOf (mode % 8) ++ ['\n'])
    else
      let digits := Nat.toDigits 8 mask
      tell (List.replicate (4 - digits.length) '0' ++ digits ++ ['\n'])
  | text :: _ =>
    let change (mask : Nat) : Step Unit := do
      let _ ← ask (.mask (some (mask % 0o1000)))
      setStatus 0
    if text.head?.any Char.isDigit then
      if text.all Format.isOctal then change (Format.octalValue text) else giveUp (illegal text)
    else match modeAfter? mode text with
      | some mode => change (0o777 ^^^ mode)
      | none => giveUp (Bytes.ofString "Illegal mode: " ++ text)

end Stopwatch.Shell.Builtin
