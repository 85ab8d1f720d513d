import Stopwatch.System.Program

/-!
# Loading executables

What starts when a file is executed: a tool, or the interpreter that a script names in its first line, which may
be a script too.

- `Loader.interpreter?`: the interpreter that a script names;
- `Loader.load`: the image of an executable, or why it cannot be executed;
- `Loader.search`: the image that a name stands for.
-/

namespace Stopwatch.System

namespace Loader

/-- How many bytes the system looks at for the first line of a script. -/
def firstLineBytes : Nat := 256

/-- What separates the interpreter of a script from its argument. -/
def isGap (c : Char) : Bool := c = ' ' || c = '\t'

/-- The interpreter and its argument in the first line of a script, without the marks at its start. -/
def splitInterpreter (line : Bytes) : Bytes × Option Bytes :=
  let line := line.dropWhile isGap
  let path := line.takeWhile fun c => !isGap c
  let argument := (((line.drop path.length).dropWhile isGap).reverse.dropWhile isGap).reverse
  (path, if argument.isEmpty then none else some argument)

/-- The interpreter that a script names in its first line, with its argument. The line is over at its line
feed, or at a zero byte, or where the system stops looking. It is not used if the name of the interpreter
may have been cut off there. -/
def interpreter? (content : Bytes) : Option (Bytes × Option Bytes) :=
  match content with
  | '#' :: '!' :: rest =>
    let seen := rest.take (firstLineBytes - 2)
    let line := seen.takeWhile fun c => c ≠ '\n' && c ≠ '\x00'
    let isCut := line.length = firstLineBytes - 2
    let isEnded := (seen.drop line.length).head? = some '\n'
    let (path, argument) := splitInterpreter line
    if isEnded && path.isEmpty then none
    else if isCut && (line.dropWhile isGap).all (!isGap ·) then none
    else some (path, argument)
  | _ => none

/-- The start of a file, as far as the system looks at it. -/
def firstBytes (file : File) : Bytes := Bytes.ofByteArray (file.content.extract 0 firstLineBytes)

/-- How many interpreters of interpreters there may be. -/
def mostInterpreters : Nat := 5

/-- What starts when a file is executed; `nesting` bounds the number of interpreters. -/
def loadFrom (v : View) (environment : List (Bytes × Bytes)) :
    (nesting : Nat) → (path called : Bytes) → List Bytes → Except SystemError Image
  | nesting, path, called, arguments => do
    match ← v.follow path.toText .visit with
    | .missing _ => .error .notFound
    | .found _ (.tool tool) => .ok ⟨tool, called, arguments, environment⟩
    | .found _ (.file serial) =>
      let file := v.disk.file serial
      if !file.isExecutable then .error .permissionDenied
      else match interpreter? (firstBytes file), nesting with
        | none, _ => .error .badFormat
        | some _, 0 => .error .tooManyLinks
        | some (interpreter, argument), nesting + 1 =>
          loadFrom v environment nesting interpreter interpreter (argument.toList ++ path :: arguments)
    | .found _ _ => .error .permissionDenied

/-- What starts when the file at a path is executed. -/
def load (v : View) (environment : List (Bytes × Bytes)) (path called : Bytes) (arguments : List Bytes) :
    Except SystemError Image :=
  loadFrom v environment mostInterpreters path called arguments

/-- The shell that reads files which say of no program that it reads them. -/
def usualShell : Bytes := "/bin/sh".toList

/-- What starts when the file at a path is executed. A file that says of no program that it reads it is read by a
shell. -/
def loadText (v : View) (environment : List (Bytes × Bytes)) (path called : Bytes) (arguments : List Bytes) :
    Except SystemError Image :=
  match load v environment path called arguments with
  | .error .badFormat => load v environment usualShell usualShell (path :: arguments)
  | outcome => outcome

/-- Whether a node can be executed. -/
def isExecutable (disk : Disk) : Node → Bool
  | .file serial => (disk.file serial).isExecutable
  | .tool _ => true
  | _ => false

/-- The paths that a name stands for in the directories of a search path. -/
def candidates (search name : Bytes) : List Bytes :=
  (Bytes.split ':' search).map fun d => if d.isEmpty then name else d ++ '/' :: name

/-- The image of the first of some paths that has one. A path at which nothing is does not count, and one that may not
be executed counts only if no other does. -/
def firstOf (loadPath : Bytes → Except SystemError Image) (mistake : SystemError) :
    List Bytes → Except SystemError Image
  | [] => .error mistake
  | path :: rest =>
    match loadPath path with
    | .ok image => .ok image
    | .error .permissionDenied => firstOf loadPath .permissionDenied rest
    | .error e => if e = .notFound || e = .notDirectory then firstOf loadPath mistake rest else .error e

/-- Where programs are looked for if the environment does not say. -/
def plainPath : Bytes := "/bin:/usr/bin".toList

/-- The image that a name stands for, as the environment says where to look. -/
def search (loadPath : Bytes → Except SystemError Image) (environment : List (Bytes × Bytes)) (name : Bytes) :
    Except SystemError Image :=
  if name.isEmpty then .error .notFound
  else if name.contains '/' then loadPath name
  else firstOf loadPath .notFound (candidates ((environment.lookup "PATH".toList).getD plainPath) name)

end Loader

end Stopwatch.System
