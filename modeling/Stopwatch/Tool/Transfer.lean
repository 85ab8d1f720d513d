import Stopwatch.Tool.Listing

/-!
# Tools that put files elsewhere

The tools that copy and move files and give them further names. All of them take a target, which is a directory for
what they put there or a name for it.

- `placements`: where each of the operands is put;
- `copyTree`, `moveFile`, `linkFile`: put one of them there.
-/

namespace Stopwatch.Tool

open Stopwatch.System (Disk Location Node View)

/-! ### Targets -/

/-- A file and the path at which it is put. -/
structure Placement where
  source : Bytes
  place : Bytes
deriving Repr, Inhabited

/-- Why a path does not lead to a directory. -/
def whyNoDirectory (v : View) (path : Bytes) : SystemError :=
  match v.follow path.toText .visit with
  | .error e => e
  | .ok (.missing _) => .notFound
  | .ok (.found _ _) => .notDirectory

/-- Where each of the operands is put, or the status if they make no sense. A single operand may be put into the
current directory. -/
def placements (call : Call) (mayBeHere : Bool) : Work (Except Nat (List Placement)) := do
  let v ← ask .view
  let into (directory : Bytes) (sources : List Bytes) : List Placement :=
    sources.map fun source => ⟨source, below directory (lastName source)⟩
  match call.value? 't', call.operands with
  | _, [] => return .error (← misuse (Bytes.ofString "missing file operand") 1)
  | some directory, sources =>
    if v.isDirectory directory.toText then return .ok (into directory sources)
    else
      blame (quotedly "target directory " directory (whyNoDirectory v directory))
      return .error 1
  | none, [only] =>
    if mayBeHere then return .ok [⟨only, '.' :: '/' :: lastName only⟩]
    else return .error (← misuse (Bytes.ofString "missing destination file operand after " ++ quote only) 1)
  | none, first :: second :: more =>
    let operands := first :: second :: more
    let target := (operands.getLast?).getD []
    match call.has 'T', more with
    | true, [] => return .ok [⟨first, second⟩]
    | true, third :: _ => return .error (← misuse (Bytes.ofString "extra operand " ++ quote third) 1)
    | false, _ =>
      if v.isDirectory target.toText then return .ok (into target operands.dropLast)
      else if more.isEmpty then return .ok [⟨first, second⟩]
      else
        blame (quotedly "target " target (whyNoDirectory v target))
        return .error 1

/-- Puts all operands to their places. -/
def overPlacements (call : Call) (mayBeHere : Bool) (use : Placement → Work Bool) : Errand := do
  match ← placements call mayBeHere with
  | .error status => return status
  | .ok all =>
    let mut status := 0
    for placement in all do
      if !(← use placement) then status := 1
    return status

/-- Tells what was put where. -/
def tell (call : Call) (start : String) (p : Placement) : Work Unit := do
  if call.has 'v' then put (Bytes.ofString start ++ quote p.source ++ Bytes.ofString " -> " ++ quote p.place ++ ['\n'])

/-- Complains that two paths lead to the same file. -/
def blameSame (p : Placement) : Work Bool := do
  blame (quote p.source ++ Bytes.ofString " and " ++ quote p.place ++ Bytes.ofString " are the same file")
  return false

/-- Complains that a directory and something else would take each other's place. -/
def blameKinds (isDirectory : Bool) (p : Placement) : Work Bool := do
  blame (if isDirectory then
      Bytes.ofString "cannot overwrite non-directory " ++ quote p.place ++ Bytes.ofString " with directory " ++
        quote p.source
    else Bytes.ofString "cannot overwrite directory " ++ quote p.place ++ Bytes.ofString " with non-directory")
  return false

/-- Whether something at a place is left as it is. -/
def isKept (call : Call) (v : View) (source target : Node) : Bool :=
  call.has 'n' || (call.has 'u' && modifiedAt v.disk source ≤ modifiedAt v.disk target)

/-! ### Copying -/

/-- The content and the permissions of a node that is copied. -/
def copied (disk : Disk) : Node → System.File
  | .file serial => disk.file serial
  | .tool _ => ⟨Disk.toolBytes, Disk.executableMode, 0⟩
  | _ => ⟨.empty, Disk.usualMode, 0⟩

/-- Copies the content of a node. A new file gets the permissions of the old one. -/
def copyContent (call : Call) (mask : Nat) (node : Node) (place : Bytes) (v : View) :
    Except SystemError Disk := do
  let file := copied v.disk node
  let isExact := call.has 'p' || call.has 'a'
  match ← v.follow place.toText .fill with
  | .missing location =>
    let mode := if isExact then file.mode else file.mode &&& (0o777 ^^^ mask)
    let disk ← v.disk.createFile location file.content mode
    if isExact then
      match disk.get? location with
      | some (.file serial) => return disk.changeFile serial fun f => { f with modified := file.modified }
      | _ => return disk
    else return disk
  | _ => v.disk.write v.directory place.toText file.content

/-- Puts a further name of a node, or a link to a path, at a place where nothing is. -/
def putNode (node : Node) (place : Bytes) (v : View) : Except SystemError Disk := do
  match ← v.follow place.toText .name with
  | .missing location =>
    match v.disk.refusal? location with
    | some e => .error e
    | none => .ok (v.disk.put location node)
  | .found _ _ => .error .fileExists

/-- Copies what is no directory; tells whether that was possible. -/
def copyNode (call : Call) (node : Node) (p : Placement) : Work Bool := do
  let mask ← ask (.mask none)
  match node with
  | .link _ => change "cannot create symbolic link " p.place (putNode node p.place)
  | _ =>
    if call.has 's' then
      change "cannot create symbolic link " p.place (putNode (.link p.source.toText) p.place)
    else if call.has 'l' then change "cannot create hard link " p.place (putNode node p.place)
    else
      let v ← ask .view
      let isDangling := isLink v p.place && (v.find? p.place.toText).isNone
      if isDangling then
        blame (Bytes.ofString "not writing through dangling symlink " ++ quote p.place)
        return false
      else if p.place.getLast? = some '/' && (v.find? p.place.toText).isNone then
        blame (quotedly "cannot create regular file " p.place .notDirectory)
        return false
      else change "cannot create regular file " p.place (copyContent call mask node p.place)

/-- The location to which a path leads, also if nothing is there yet. -/
def locationOf? (v : View) (path : Bytes) : Option Location :=
  match v.follow path.toText .visit with
  | .ok (.missing location) => some location
  | .ok (.found location _) => some location
  | .error _ => none

/-- Copies what is at a place, directories with all that is in them, but not what has just been made by this. `fuel`
bounds the number of nodes. -/
def copyTree (call : Call) (top : Placement) (made : Option Location) : (fuel : Nat) → Placement → Work Bool
  | 0, _ => return false
  | fuel + 1, p => do
    let v ← ask .view
    let isDeep := call.has 'r' || call.has 'R' || call.has 'a'
    let keepsLinks := (isDeep || call.has 'P' || call.has 'd') && !call.has 'L'
    let source := v.follow p.source.toText (if keepsLinks then .name else .visit)
    let there := v.find? p.place.toText
    let cannot (path : Bytes) (e : SystemError) : Work Bool := do
      blame (quotedly "cannot stat " path e)
      return false
    match source with
    | .error e => cannot p.source e
    | .ok (.missing _) => cannot p.source .notFound
    | .ok (.found here .directory) =>
      if !isDeep then
        blame (Bytes.ofString "-r not specified; omitting directory " ++ quote p.source)
        return false
      else if there.any fun t => t.2 ≠ .directory then blameKinds true p
      else if made = some here then
        blame (Bytes.ofString "cannot copy a directory, " ++ quote top.source ++ Bytes.ofString ", into itself, " ++
          quote top.place)
        return false
      else
        let isReady ← if there.isSome then pure true
          else change "cannot create directory " p.place fun v => v.disk.makeDirectory v.directory p.place.toText
        if !isReady then return false
        if there.isNone then tell call "" p
        let mut isDone := true
        for (name, _) in (← ask .view).disk.children here do
          let name := Bytes.ofString name
          if !(← copyTree call top made fuel ⟨below p.source name, below p.place name⟩) then isDone := false
        return isDone
    | .ok (.found here node) =>
      match there with
      | some (location, other) =>
        if other = .directory then blameKinds false p
        else if location = here || (other = node && (v.disk.fileOf? node).isSome) then
          if call.has 'l' || call.has 'n' then return true else blameSame p
        else if isKept call v node other then return true
        else
          if call.has 'f' && call.has 's' || call.has 'f' && call.has 'l' then
            let _ ← ask (.alter fun v => v.disk.remove v.directory p.place.toText)
          let isDone ← copyNode call node p
          if isDone then tell call "" p
          return isDone
      | none =>
        if let .error .notDirectory := v.follow p.place.toText .visit then cannot p.place .notDirectory
        else
          let isDone ← copyNode call node p
          if isDone then tell call "" p
          return isDone

/-- The options of the tools that put files elsewhere. -/
def transferOptions (flags : String) : Options :=
  ⟨flags, "tS", [("force", 'f'), ("no-clobber", 'n'), ("recursive", 'r'), ("verbose", 'v'), ("update", 'u'),
    ("target-directory", 't'), ("no-target-directory", 'T'), ("archive", 'a'), ("symbolic", 's'),
    ("interactive", 'i'), ("dereference", 'L'), ("no-dereference", 'P'), ("link", 'l'), ("symbolic-link", 's')]⟩

/-- Copies files. -/
def cp : Errand :=
  withCall (transferOptions "abdfiHlLnPpRrsTuvx") 1 fun call => do
    overPlacements call false fun p => do
      let v ← ask .view
      let made := if v.isDirectory p.source.toText then locationOf? v p.place else none
      copyTree call p made (2 * v.disk.entries.length + 2) p

/-! ### Moving -/

/-- Moves an entry with all that is below it. -/
def moveTree (source target : Location) (disk : Disk) : Disk :=
  let others := removeTree target disk
  { others with entries := others.entries.map fun e =>
      if source.isSuffixOf e.1 then (e.1.take (e.1.length - source.length) ++ target, e.2) else e }

/-- Moves what a path names. -/
def moveFile (call : Call) (p : Placement) : Work Bool := do
  let v ← ask .view
  let cannot (e : SystemError) : Work Bool := do
    blame (Bytes.ofString "cannot move " ++ quote p.source ++ Bytes.ofString " to " ++ quote p.place ++
      [':', ' '] ++ words e)
    return false
  let go (here there : Location) : Work Bool := do
    match ← ask (.alter fun v => match v.disk.refusal? there with
      | some e => .error e
      | none => .ok (moveTree here there v.disk)) with
    | .error e => cannot e
    | .ok _ =>
      tell call "renamed " p
      return true
  match v.follow p.source.toText .name, v.follow (Disk.withoutSlashes p.place.toText) .name with
  | .error e, _ =>
    blame (quotedly "cannot stat " p.source e)
    return false
  | .ok (.missing _), _ =>
    blame (quotedly "cannot stat " p.source .notFound)
    return false
  | _, .error e => cannot e
  | .ok (.found here node), .ok (.missing there) =>
    if node = .directory && here.isSuffixOf there then
      blame (Bytes.ofString "cannot move " ++ quote p.source ++ Bytes.ofString " to a subdirectory of itself, " ++
        quote p.place)
      return false
    else if node ≠ .directory && p.place.getLast? = some '/' then cannot .notDirectory
    else go here there
  | .ok (.found here node), .ok (.found there other) =>
    if here = there then blameSame p
    else if node ≠ .directory && isKept call v node other then return true
    else if node = .directory && here.isSuffixOf there then
      blame (Bytes.ofString "cannot move " ++ quote p.source ++ Bytes.ofString " to a subdirectory of itself, " ++
        quote p.place)
      return false
    else if node = .directory && other ≠ .directory then blameKinds true p
    else if node ≠ .directory && other = .directory then blameKinds false p
    else if other = .directory && !(v.disk.children there).isEmpty then cannot .directoryNotEmpty
    else go here there

/-- Moves files. -/
def mv : Errand :=
  withCall (transferOptions "bfinTuvZ") 1 fun call => overPlacements call false (moveFile call)

/-! ### Linking -/

/-- Gives a file another name, or makes a link to it. -/
def linkFile (call : Call) (p : Placement) : Work Bool := do
  let v ← ask .view
  let isSymbolic := call.has 's'
  let what := if isSymbolic then "failed to create symbolic link " else "failed to create hard link "
  let put' (node : Node) : Work Bool := do
    if call.has 'f' then
      let _ ← ask (.alter fun v => v.disk.remove v.directory p.place.toText)
    let isDone ← change what p.place (putNode node p.place)
    if isDone && call.has 'v' then
      put (quote p.place ++ Bytes.ofString (if isSymbolic then " -> " else " => ") ++ quote p.source ++ ['\n'])
    return isDone
  if isSymbolic then put' (.link p.source.toText)
  else match v.follow p.source.toText (if call.has 'L' then .visit else .name) with
    | .error e =>
      blame (quotedly "failed to access " p.source e)
      return false
    | .ok (.missing _) =>
      blame (quotedly "failed to access " p.source .notFound)
      return false
    | .ok (.found _ .directory) =>
      blame (p.source ++ Bytes.ofString ": hard link not allowed for directory")
      return false
    | .ok (.found here node) =>
      let isSame := match v.follow p.place.toText .name with
        | .ok (.found there _) => here = there
        | _ => false
      if call.has 'f' && isSame then blameSame p else put' node

/-- Gives files further names, or makes links to them. -/
def ln : Errand :=
  withCall (transferOptions "bdfiLnPrsTv") 1 fun call => do
    let v ← ask .view
    let target := (call.operands.getLast?).getD []
    let call := if call.has 'n' && isLink v target && call.operands.length = 2 then
        { call with options := ('T', []) :: call.options }
      else call
    overPlacements { call with options := call.options.filter (·.1 ≠ 'n') } true (linkFile call)

end Stopwatch.Tool
