import Stopwatch.Shell.Builtin.Directory
import Stopwatch.Tool.Basic

/-!
# Tools on paths

The tools that take paths apart, and those that tell where paths and links lead.

- `lastName`, `parentOf`, `withoutSuffix`: the parts of a path;
- `canonical`: the path without links of what a path leads to.
-/

namespace Stopwatch.Tool

open Stopwatch.System (Disk View)

/-! ### Parts of paths -/

/-- A path without the slashes at its end. -/
def dropSlashes (path : Bytes) : Bytes := (path.reverse.dropWhile (· = '/')).reverse

/-- The last name of a path. -/
def lastName (path : Bytes) : Bytes :=
  let path' := dropSlashes path
  if path'.isEmpty then path.take 1 else (path'.reverse.takeWhile (· ≠ '/')).reverse

/-- The path without its last name. -/
def parentOf (path : Bytes) : Bytes :=
  let parent := dropSlashes (((dropSlashes path).reverse.dropWhile (· ≠ '/')).reverse)
  if !parent.isEmpty then parent else if path.head? = some '/' then ['/'] else ['.']

/-- A path below another one. -/
def below (directory name : Bytes) : Bytes :=
  if directory.getLast? = some '/' then directory ++ name else directory ++ '/' :: name

/-- A name without a suffix, unless it is all of the name. -/
def withoutSuffix (suffix name : Bytes) : Bytes :=
  if suffix.isSuffixOf name && suffix ≠ name then name.take (name.length - suffix.length) else name

/-- What stands behind each result. -/
def terminator (call : Call) : Bytes := if call.has 'z' then ['\x00'] else ['\n']

/-- Shows the last names of paths. -/
def basename : Errand :=
  withCall ⟨"az", "s", [("multiple", 'a'), ("suffix", 's'), ("zero", 'z')]⟩ 1 fun call => do
    let tell (suffix path : Bytes) : Work Unit := put (withoutSuffix suffix (lastName path) ++ terminator call)
    match call.operands with
    | [] => missingOperand
    | path :: rest =>
      if call.has 'a' || call.has 's' then
        for path in call.operands do
          tell ((call.value? 's').getD []) path
        return 0
      else match rest with
        | [] =>
          tell [] path
          return 0
        | [suffix] =>
          tell suffix path
          return 0
        | _ :: extra :: _ => misuse (Bytes.ofString "extra operand " ++ quote extra) 1

/-- Shows paths without their last names. -/
def dirname : Errand :=
  withCall ⟨"z", "", [("zero", 'z')]⟩ 1 fun call => do
    if call.operands.isEmpty then missingOperand
    else
      for path in call.operands do
        put (parentOf path ++ terminator call)
      return 0

/-! ### Where paths lead -/

/-- What of a path has to exist. -/
inductive Need where
  | all
  | allButLast
  | nothing
deriving DecidableEq, Repr, Inhabited

/-- The path without links of what a path leads to. -/
def canonical (v : View) (need : Need) (path : Bytes) : Except SystemError Bytes :=
  match v.follow path.toText .visit, need with
  | .ok (.found location _), _ => .ok (Bytes.ofString (Disk.pathOf location))
  | .ok (.missing location), .allButLast => .ok (Bytes.ofString (Disk.pathOf location))
  | .ok (.missing _), .all => .error .notFound
  | _, .nothing => .ok (Shell.Builtin.routeTo (Bytes.ofString (Disk.pathOf v.directory)) path)
  | .error e, _ => .error e

/-- What of a path has to exist as some options say. -/
def needOf (call : Call) : Need :=
  if call.has 'e' then .all else if call.has 'm' then .nothing else .allButLast

/-- Shows paths without links. -/
def realpath : Errand :=
  withCall ⟨"eEmqsLPz", "", [("canonicalize-existing", 'e'), ("canonicalize-missing", 'm'),
      ("no-symlinks", 's'), ("quiet", 'q'), ("zero", 'z')]⟩ 1 fun call => do
    if call.operands.isEmpty then missingOperand
    else overOperands (fun operand => do
      let v ← ask .view
      let lexical := Shell.Builtin.routeTo (Bytes.ofString (Disk.pathOf v.directory)) operand
      match canonical v (needOf call) operand with
      | .ok path =>
        put ((if call.has 's' then lexical else path) ++ terminator call)
        return true
      | .error e =>
        if !call.has 'q' then blame (plainly operand e)
        return false) call.operands

/-- Shows where links lead. -/
def readlink : Errand :=
  withCall ⟨"femnqsvz", "", [("canonicalize", 'f'), ("canonicalize-existing", 'e'),
      ("canonicalize-missing", 'm'), ("no-newline", 'n'), ("quiet", 'q'), ("silent", 's'),
      ("verbose", 'v'), ("zero", 'z')]⟩ 1 fun call => do
    if call.operands.isEmpty then missingOperand
    else
      let behind := if call.has 'n' && call.operands.length = 1 then [] else terminator call
      overOperands (fun operand => do
        let v ← ask .view
        let found : Except SystemError (Option Bytes) :=
          if call.has 'f' || call.has 'e' || call.has 'm' then some <$> canonical v (needOf call) operand
          else match v.follow operand.toText .name with
            | .ok (.found _ (.link target)) => .ok (some (Bytes.ofString target))
            | .ok (.found _ _) => .ok none
            | .ok (.missing _) => .error .notFound
            | .error e => .error e
        match found with
        | .ok (some path) =>
          put (path ++ behind)
          return true
        | .ok none =>
          if call.has 'v' then blame (named operand ++ Bytes.ofString ": Invalid argument")
          return false
        | .error e =>
          if call.has 'v' then blame (plainly operand e)
          return false) call.operands

end Stopwatch.Tool
