import Stopwatch.Calendar
import Stopwatch.Tool.Files

/-!
# Listing directories

The tool that shows the names in directories.

- `arranged`: names in the order that is asked for;
- `listDirectory`: the names in a directory, and on demand those in all directories below it.
-/

namespace Stopwatch.Tool

open Stopwatch.System (Disk Location Node View)

/-- Something that is listed. -/
structure Listed where
  name : Bytes
  location : Location
  node : Node
deriving Inhabited

/-- What can be put behind a name to tell what it stands for. -/
def markOf (call : Call) (v : View) (node : Node) : Bytes :=
  match node with
  | .directory => if call.has 'F' || call.has 'p' then ['/'] else []
  | .link _ => if call.has 'F' then ['@'] else []
  | .fifo _ => if call.has 'F' then ['|'] else []
  | node => if call.has 'F' && System.Loader.isExecutable v.disk node then ['*'] else []

/-- When something was last changed. -/
def modifiedAt (disk : Disk) (node : Node) : Nat := (disk.fileOf? node).elim 0 System.File.modified

/-- How much room is given out at once. -/
def unitSize : Nat := 4096

/-- How much is in something. -/
def sizeIn (disk : Disk) : Node → Nat
  | .file serial => (disk.file serial).content.size
  | .link target => target.utf8ByteSize
  | .tool _ => Disk.toolBytes.size
  | .fifo _ => 0
  | _ => unitSize

/-- Whether two things stand in the order that is asked for. -/
def isBefore (call : Call) (disk : Disk) (a b : Listed) : Bool :=
  let modified (l : Listed) : Nat := modifiedAt disk l.node
  let size (l : Listed) : Nat := sizeIn disk l.node
  if call.has 't' && modified a ≠ modified b then modified b < modified a
  else if call.has 'S' && size a ≠ size b then size b < size a
  else Bytes.inOrder a.name b.name

/-- Things in the order that is asked for. -/
def arranged (call : Call) (v : View) (all : List Listed) : List Listed :=
  if call.has 'U' then all
  else
    let ordered := all.mergeSort (isBefore call v.disk)
    if call.has 'r' then ordered.reverse else ordered

/-- The letter of the kind of something, and its permissions. -/
def modeOf (disk : Disk) (node : Node) : Bytes :=
  match node with
  | .file serial => '-' :: modeLetters (disk.file serial).mode
  | .directory => 'd' :: modeLetters Disk.executableMode
  | .tool _ => '-' :: modeLetters Disk.executableMode
  | .link _ => 'l' :: modeLetters 0o777
  | .device _ => 'c' :: modeLetters 0o666
  | .fifo serial => 'p' :: modeLetters (disk.file serial).mode

/-- A date with its time, or with its year if it is long ago or still to come. -/
def dateText (now time : Nat) : Bytes :=
  let m := Moment.ofNanoseconds time
  let isNear := time ≤ now && now < time + 15778476 * Span.second
  Bytes.ofString (String.ofList (m.monthName.toList.take 3) ++ " ") ++ column 2 m.day ++ [' '] ++
    (if isNear then Bytes.ofString (Moment.padded 2 m.hour ++ ":" ++ Moment.padded 2 m.minute)
      else ' ' :: Bytes.ofString (Moment.yearText m.year))

/-- How many names something has. -/
def nameCount (disk : Disk) (l : Listed) : Nat :=
  match l.node with
  | .file _ => (disk.entries.filter (·.2 = l.node)).length
  | .directory => 2 + ((disk.children l.location).filter (·.2 = .directory)).length
  | _ => 1

/-- All that is known about some things, in a line for each. -/
def longLines (call : Call) (v : View) (all : List Listed) : Bytes :=
  let widest (f : Listed → Nat) : Nat := (all.map fun l => (Bytes.decimal (f l)).length).foldl max 0
  let count (l : Listed) : Nat := nameCount v.disk l
  let size (l : Listed) : Nat := sizeIn v.disk l.node
  let (countWidth, sizeWidth) := (widest count, widest size)
  all.flatMap fun l =>
    let target : Bytes := match l.node with
      | .link target => Bytes.ofString (" -> " ++ target)
      | _ => markOf call v l.node
    modeOf v.disk l.node ++ [' '] ++ column countWidth (count l) ++ Bytes.ofString " root root " ++
      column sizeWidth (size l) ++ [' '] ++ dateText v.disk.now (modifiedAt v.disk l.node) ++ [' '] ++ l.name ++
      target ++ ['\n']

/-- How much room some things take, in units of 1024 bytes. -/
def roomOf (disk : Disk) (all : List Listed) : Nat :=
  (all.map fun l => match l.node with
    | .link _ => 0
    | node => (sizeIn disk node + unitSize - 1) / unitSize * (unitSize / 1024)).foldl (· + ·) 0

/-- The lines for some things: one for each, or all in one. -/
def listLines (call : Call) (v : View) (all : List Listed) : Bytes :=
  let texts := all.map fun l => l.name ++ markOf call v l.node
  if call.has 'l' then longLines call v all
  else if call.has 'm' then (if texts.isEmpty then [] else [',', ' '].intercalate texts ++ ['\n'])
  else texts.flatMap (· ++ ['\n'])

/-- What is in a directory, as far as it is shown. -/
def shownIn (call : Call) (v : View) (location : Location) : List Listed :=
  let own : List Listed :=
    if call.has 'a' then [⟨['.'], location, .directory⟩, ⟨['.', '.'], location.tail, .directory⟩] else []
  let others : List Listed := (v.disk.children location).map fun (name, node) =>
    ⟨Bytes.ofString name, name :: location, node⟩
  own ++ others.filter fun l => call.has 'a' || call.has 'A' || l.name.head? ≠ some '.'

/-- Shows a directory, perhaps under its path, and on demand those below it; `fuel` bounds the depth. -/
def listDirectory (call : Call) (v : View) : (fuel : Nat) → (isHeaded isFirst : Bool) → Listed → Bytes
  | 0, _, _, _ => []
  | fuel + 1, isHeaded, isFirst, directory =>
    let shown := arranged call v (shownIn call v directory.location)
    let head := (if isFirst then [] else ['\n']) ++ if isHeaded then directory.name ++ [':', '\n'] else []
    let inner := if call.has 'R' then shown.filter fun l =>
        l.node = .directory && l.name ≠ ['.'] && l.name ≠ ['.', '.']
      else []
    let total := if call.has 'l' then Bytes.ofString "total " ++ Bytes.decimal (roomOf v.disk shown) ++ ['\n'] else []
    head ++ total ++ listLines call v shown ++ inner.flatMap fun l =>
      listDirectory call v fuel true false { l with name := below directory.name l.name }

/-- Shows the names in directories, and the operands that are none. -/
def ls : Errand :=
  withCall ⟨"1aAdFHlLmpqrRStUx", "", [("all", 'a'), ("almost-all", 'A'), ("directory", 'd'), ("classify", 'F'),
      ("reverse", 'r'), ("recursive", 'R')]⟩ 2 fun call => do
    let v ← ask .view
    let keepsLinks := call.has 'd' || call.has 'F' || call.has 'l'
    let operands : List Bytes := if call.operands.isEmpty then [['.']] else call.operands
    let mut found : List Listed := []
    let mut status := 0
    for operand in operands do
      let named' : Except SystemError System.Disk.Target := v.follow operand.toText .name
      match if keepsLinks then named' else v.follow operand.toText .visit, named' with
      | .ok (.found location node), _ => found := found ++ [⟨operand, location, node⟩]
      | _, .ok (.found location node) => found := found ++ [⟨operand, location, node⟩]
      | .error e, _ =>
        blame (quotedly "cannot access " operand e)
        status := 2
      | _, _ =>
        blame (quotedly "cannot access " operand .notFound)
        status := 2
    let (directories, files) := found.partition fun l => l.node = .directory && !call.has 'd'
    put (listLines call v (arranged call v files))
    let isHeaded := 1 < operands.length || call.has 'R'
    for (directory, i) in (arranged call v directories).zipIdx do
      put (listDirectory call v (v.disk.entries.length + 1) isHeaded (i = 0 && files.isEmpty) directory)
    return status

end Stopwatch.Tool
