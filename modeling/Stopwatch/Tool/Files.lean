import Stopwatch.Fingerprint
import Stopwatch.Tool.Paths

/-!
# Tools on files

The tools that make and remove files and directories, change what is known about them, and copy a text into them.
-/

namespace Stopwatch.Tool

open Stopwatch.System (Access Disk Location Node View)

/-! ### Removing -/

/-- Removes the entry at a location and all that is below it. -/
def removeTree (location : Location) (disk : Disk) : Disk :=
  { disk with entries := disk.entries.filter fun e => !location.isSuffixOf e.1 }

/-- Removes all that is below a location. -/
def emptyTree (location : Location) (disk : Disk) : Disk :=
  { disk with entries := disk.entries.filter fun e => !(location.isSuffixOf e.1 && e.1 ≠ location) }

/-- What is told about a tree that is removed: everything in a directory goes before it. `fuel` bounds the number of
nodes. -/
def removalsFrom (disk : Disk) : (fuel : Nat) → Location → (path : Bytes) → List Bytes
  | 0, _, _ => []
  | fuel + 1, location, path =>
    match disk.get? location with
    | some .directory =>
      ((disk.children location).flatMap fun (name, _) =>
        removalsFrom disk fuel (name :: location) (below path (Bytes.ofString name))) ++
        [Bytes.ofString "removed directory " ++ quote path ++ ['\n']]
    | _ => [Bytes.ofString "removed " ++ quote path ++ ['\n']]

/-- Whether a path leads to a directory by a name that every directory has. -/
def isDots (path : Bytes) : Bool :=
  let name := lastName path
  name = ['.'] || name = ['.', '.']

/-- Whether a path names a link. -/
def isLink (v : View) (path : Bytes) : Bool :=
  match v.follow path.toText .name with
  | .ok (.found _ (.link _)) => true
  | _ => false

/-- Removes files, and directories on demand. -/
def rm : Errand :=
  withCall ⟨"dfirRvI", "", [("force", 'f'), ("recursive", 'r'), ("dir", 'd'), ("verbose", 'v')]⟩ 1 fun call => do
    let isDeep := call.has 'r' || call.has 'R'
    if call.operands.isEmpty && !call.has 'f' then missingOperand
    else overOperands (fun operand => do
      let v ← ask .view
      let target := v.follow operand.toText .name
      let isMissing := match target with
        | .ok (.found _ _) => false
        | .ok (.missing _) => true
        | .error e => e = .notFound || e = .notDirectory
      if isDeep && isDots operand then
        blame (Bytes.ofString "refusing to remove '.' or '..' directory: skipping " ++ quote operand)
        return false
      else if call.has 'f' && isMissing then return true
      else
        let isBehindLink := isLink v (dropSlashes operand)
        if isDeep && isBehindLink then
          -- What is in the directory goes, but not the link, which is no directory.
          let _ ← ask (.alter fun v => do
            match ← v.follow operand.toText .name with
            | .found location .directory => .ok (emptyTree location v.disk)
            | _ => .ok v.disk)
        let isDone ← change "cannot remove " operand fun v => do
          match ← v.follow operand.toText .name with
          | .missing _ => .error .notFound
          | .found location .directory =>
            if isDeep then
              if isBehindLink then .error .notDirectory else .ok (removeTree location v.disk)
            else if !call.has 'd' then .error .isDirectory
            else if (v.disk.children location).isEmpty then .ok (v.disk.erase location)
            else .error .directoryNotEmpty
          | .found location _ => .ok (v.disk.erase location)
        if isDone && call.has 'v' then
          if let .ok (.found location _) := target then
            put (removalsFrom v.disk (v.disk.entries.length + 1) location operand).flatten
        return isDone) call.operands

/-- Removes a directory with nothing in it. -/
def removeEmpty (path : Bytes) (v : View) : Except SystemError Disk := do
  match ← v.follow path.toText .name with
  | .missing _ => .error .notFound
  | .found location .directory =>
    if (v.disk.children location).isEmpty then .ok (v.disk.erase location) else .error .directoryNotEmpty
  | .found _ _ => .error .notDirectory

/-- A path, and those of the directories above it as far as it names them. -/
def withParents (path : Bytes) : List Bytes :=
  let rec go : (fuel : Nat) → Bytes → List Bytes
    | 0, _ => []
    | fuel + 1, path =>
      let parent := parentOf path
      if parent = ['.'] || parent = ['/'] then [path] else path :: go fuel parent
  go path.length path

/-- Removes empty directories. -/
def rmdir : Errand :=
  withCall ⟨"pv", "", [("parents", 'p'), ("verbose", 'v')]⟩ 1 fun call => do
    if call.operands.isEmpty then missingOperand
    else overOperands (fun operand => do
      for path in if call.has 'p' then withParents operand else [operand] do
        if call.has 'v' then put (Bytes.ofString "rmdir: removing directory, " ++ quote path ++ ['\n'])
        if !(← change "failed to remove " path (removeEmpty path)) then return false
      return true) call.operands

/-! ### Making -/

/-- Makes a directory; tells whether it is there then. -/
def makeDirectory (call : Call) (mayExist isLast : Bool) (path : Bytes) : Work Bool := do
  match ← ask (.alter fun v => v.disk.makeDirectory v.directory path.toText) with
  | .ok _ =>
    if call.has 'v' then put (Bytes.ofString "mkdir: created directory " ++ quote path ++ ['\n'])
    return true
  | .error e =>
    let v ← ask .view
    if mayExist && e = .fileExists && v.isDirectory path.toText then return true
    else
      blame (quotedly "cannot create directory " path
        (if e = .fileExists && !isLast then .notDirectory else e))
      return false

/-- Makes directories. -/
def mkdir : Errand :=
  withCall ⟨"pv", "m", [("parents", 'p'), ("mode", 'm'), ("verbose", 'v')]⟩ 1 fun call => do
    if call.operands.isEmpty then missingOperand
    else overOperands (fun operand => do
      if !call.has 'p' then makeDirectory call false true operand
      else
        for path in (withParents operand).reverse do
          if !(← makeDirectory call true (path = operand) path) then return false
        return true) call.operands

/-! ### Times -/

/-- The days from the start of 1970 to a date. -/
def daysTo (year month day : Nat) : Int :=
  let shifted : Int := if month ≤ 2 then year - 1 else year
  let era := shifted / 400
  let yearOfEra := shifted - era * 400
  let dayOfYear : Int := (153 * ((month : Int) + (if month > 2 then -3 else 9)) + 2) / 5 + day - 1
  era * 146097 + yearOfEra * 365 + yearOfEra / 4 - yearOfEra / 100 + dayOfYear - 719468

/-- The nanoseconds from the start of 1970 to a moment; nothing lies before that. -/
def moment (year month day seconds : Nat) : Nat := (daysTo year month day * 86400 + seconds).toNat * Span.second

/-- The numbers that a text is made of, between characters that are no digits. -/
def numbersIn (text : Bytes) : List Nat :=
  ((Bytes.split ' ' (text.map fun c => if c.isDigit then c else ' ')).filter (!·.isEmpty)).map fun digits =>
    Nat.ofDigitChars 10 digits 0

/-- The moment that a date stands for, at some time; nothing if it is written in a way that is not known. -/
def date? (now : Nat) (text : Bytes) : Option Nat :=
  match text with
  | '@' :: digits => (Bytes.number? digits).map (· * Span.second)
  | _ =>
    if text = "now".toList || text = "today".toList then some now
    else if text = "yesterday".toList then some (now - 86400 * Span.second)
    else if text = "tomorrow".toList then some (now + 86400 * Span.second)
    else match numbersIn text with
      | [year, month, day] => some (moment year month day 0)
      | [year, month, day, hour, minute] => some (moment year month day (hour * 3600 + minute * 60))
      | year :: month :: day :: hour :: minute :: second :: _ =>
        some (moment year month day (hour * 3600 + minute * 60 + second))
      | _ => none

/-- The moment that a stamp such as `202401311200.30` stands for. -/
def stamp? (text : Bytes) : Option Nat :=
  let digits := text.takeWhile Char.isDigit
  let seconds := (Bytes.number? (text.drop (digits.length + 1))).getD 0
  let digits := if digits.length = 10 then "20".toList ++ digits else digits
  let part (start count : Nat) : Nat := Nat.ofDigitChars 10 ((digits.drop start).take count) 0
  if digits.length = 12 then
    some (moment (part 0 4) (part 4 2) (part 6 2) (part 8 2 * 3600 + part 10 2 * 60 + seconds))
  else none

/-- Makes missing files, and marks others as changed at some time. -/
def touchFile (isMaking : Bool) (time : Option Nat) (path : Bytes) (v : View) : Except SystemError Disk := do
  match v.find? path.toText with
  | some (_, .file serial) =>
    return v.disk.changeFile serial fun file => { file with modified := time.getD v.disk.now }
  | some _ => return v.disk
  | none =>
    if isMaking then
      let disk ← v.disk.write v.directory path.toText .empty
      match disk.find? v.directory path.toText, time with
      | some (_, .file serial), some modified =>
        return disk.changeFile serial fun file => { file with modified }
      | _, _ => return disk
    else return v.disk

/-- Makes missing files, and marks others as changed now or at another time. -/
def touch : Errand :=
  withCall ⟨"acfmh", "drt", [("no-create", 'c'), ("date", 'd'), ("reference", 'r')]⟩ 1 fun call => do
    let v ← ask .view
    let now ← ask .time
    let wrong (text : Bytes) : Errand := do
      blame (Bytes.ofString "invalid date format " ++ quote text)
      return 1
    let go (time : Option Nat) : Errand := do
      if call.operands.isEmpty then misuse (Bytes.ofString "missing file operand") 1
      else overOperands (fun operand =>
        change (if operand.getLast? = some '/' then "setting times of " else "cannot touch ") operand
          (touchFile (!call.has 'c') time operand)) call.operands
    match call.value? 'r', call.value? 'd', call.value? 't' with
    | some path, _, _ =>
      match v.find? path.toText with
      | none =>
        blame (quotedly "failed to get attributes of " path .notFound)
        return 1
      | some (_, node) => go ((v.disk.fileOf? node).map System.File.modified)
    | none, some text, _ => (date? now text).elim (wrong text) fun time => go (some time)
    | none, none, some text => (stamp? text).elim (wrong text) fun time => go (some time)
    | none, none, none => go none

/-! ### Permissions -/

/-- The permissions of a file after a change that is written in digits or letters. What nobody is named for is
subject to a mask. -/
def modeAfter? (mask mode : Nat) (isDirectory : Bool) (text : Bytes) : Option Nat :=
  if !text.isEmpty && text.all Shell.Format.isOctal then
    let n := Shell.Format.octalValue text
    if n ≤ 0o7777 then some (n &&& 0o777) else none
  else
    let isUsed := isDirectory || mode &&& 0o111 ≠ 0
    let text := if isUsed then text else text.filter (· ≠ 'X')
    (Bytes.split ',' text).foldl (fun mode part => mode.bind fun mode =>
      let letters := part.takeWhile fun c => "ugoa".toList.contains c
      let places := if letters.isEmpty then 0o777 &&& (0o777 ^^^ mask) else Shell.Builtin.placesOf letters
      match part.drop letters.length with
      | [] => none
      | rest => Shell.Builtin.changesFrom places (rest.length + 1) mode rest) (some mode)

/-- Permissions in letters. -/
def modeLetters (mode : Nat) : Bytes :=
  let triple (n : Nat) : Bytes :=
    [if n &&& 4 ≠ 0 then 'r' else '-', if n &&& 2 ≠ 0 then 'w' else '-', if n &&& 1 ≠ 0 then 'x' else '-']
  triple (mode / 64 % 8) ++ triple (mode / 8 % 8) ++ triple (mode % 8)

/-- Changes permissions. A mode may look like an option. -/
def chmod : Errand := do
  let arguments := (← read).arguments
  let options := ["-R", "-f", "-v", "-c", "--"].map Bytes.ofString
  let isTold := arguments.contains "-v".toList
  match arguments.filter (!options.contains ·) with
  | [] => missingOperand
  | [mode] => misuse (Bytes.ofString "missing operand after " ++ quote mode) 1
  | text :: operands =>
    let mask ← ask (.mask none)
    if (modeAfter? mask 0 false text).isNone then
      misuse (Bytes.ofString "invalid mode: " ++ quote text) 1
    else overOperands (fun operand => do
      let v ← ask .view
      match v.find? operand.toText with
      | none =>
        blame (quotedly "cannot access " operand .notFound)
        return false
      | some (_, .file serial) =>
        let former := (v.disk.file serial).mode
        let mode := (modeAfter? mask former false text).getD former
        let _ ← ask (.alter fun v => .ok (v.disk.changeFile serial fun file => { file with mode }))
        if isTold then
          let shown (n : Nat) : Bytes :=
            let digits := Nat.toDigits 8 n
            List.replicate (4 - digits.length) '0' ++ digits ++ Bytes.ofString " (" ++ modeLetters n ++ [')']
          put (Bytes.ofString "mode of " ++ quote operand ++
            (if mode = former then Bytes.ofString " retained as " ++ shown mode
              else Bytes.ofString " changed from " ++ shown former ++ Bytes.ofString " to " ++ shown mode) ++ ['\n'])
        return true
      | some _ => return true) operands

/-- Makes pipes with names. -/
def mkfifo : Errand :=
  withCall ⟨"", "m", [("mode", 'm')]⟩ 1 fun call => do
    let mask ← ask (.mask none)
    let usual := 0o666 &&& (0o777 ^^^ mask)
    match (call.value? 'm').elim (some usual) (modeAfter? mask 0o666 false) with
    | none =>
      blame (Bytes.ofString "invalid mode")
      return 1
    | some mode =>
      if call.operands.isEmpty then missingOperand
      else overOperands (fun operand =>
        change "cannot create fifo " operand fun v => v.disk.makeFifo v.directory operand.toText mode) call.operands

/-! ### Contents -/

/-- Copies its input to files and to its output. -/
def tee : Errand :=
  withCall ⟨"aip", "", [("append", 'a'), ("ignore-interrupts", 'i')]⟩ 1 fun call => do
    let access := if call.has 'a' then Access.extension else Access.output
    let mut status := 0
    let mut targets := []
    for operand in call.operands do
      match ← ask (.openFile operand.toText access) with
      | .ok descriptor => targets := targets ++ [(operand, descriptor)]
      | .error e =>
        blame (plainly operand e)
        status := 1
    let all := targets
    let (failed, _) ← overPortions 0 (fun (failed : List Bytes) text => do
      put text
      flush
      all.foldlM (fun failed (operand, descriptor) => do
        if failed.contains operand then return failed
        match ← (System.Action.write descriptor text : System.Action _) with
        | none => return failed
        | some e =>
          blame (plainly operand e)
          return operand :: failed) failed) []
    return if failed.isEmpty then status else 1

/-- Shows the fingerprints of files. -/
def fingerprints : Errand :=
  withCall ⟨"bt", "", [("binary", 'b'), ("text", 't')]⟩ 1 fun call =>
    overInputs {} (fun operand descriptor => do
      let (text, e) ← takeAll descriptor
      if e.isNone then
        put (Bytes.ofString (Fingerprint.ofBytes text.toByteArray) ++ (if call.has 'b' then [' ', '*'] else [' ', ' ']) ++
          operand ++ ['\n'])
      return e) (orStandard call.operands)

end Stopwatch.Tool
