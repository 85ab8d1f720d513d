import Stopwatch.Shell.Step

/-!
# Redirections

Descriptors are made to lead elsewhere for a command, and afterwards lead back. What they led to is kept in copies
that no program gets.

- `Redirect.apply`: redirects descriptors;
- `Redirect.restore`: puts them back.
-/

namespace Stopwatch.Shell

open Stopwatch.System (Access Action)

/-- A redirection whose words have been expanded. -/
inductive Direction where
  | file (descriptor : Nat) (way : Way) (path : Bytes)
  /-- Leads where another descriptor leads, or nowhere. -/
  | duplicate (descriptor : Nat) (source : Option Nat)
  /-- A text, which is made when it is needed. -/
  | text (descriptor : Nat) (content : Step Bytes)

namespace Direction

def descriptor : Direction → Nat
  | file d _ _ => d
  | duplicate d _ => d
  | text d _ => d

end Direction

namespace Redirect

open Step (ask blame setStatus)

/-- A descriptor and a copy of what it led to, if it led anywhere. -/
structure Kept where
  descriptor : Nat
  copy : Option Nat
deriving DecidableEq, Repr, Inhabited

/-- The least number of a copy. -/
def leastCopy : Nat := 10

/-- What a shell says about a file that it cannot open. -/
def complaint (way : Way) (path : Bytes) (e : SystemError) : Bytes :=
  let isMissing := e = .notFound || e = .notDirectory
  let (what, reason) := match way with
    | .input => ("cannot open ", if isMissing then "No such file" else e.description)
    | _ => ("cannot create ", if isMissing then "Directory nonexistent" else e.description)
  Bytes.ofString what ++ path ++ Bytes.ofString (": " ++ reason)

/-- How a file is opened. -/
def accessFor (way : Way) (isNew : Bool) : Access :=
  match way with
  | .input => .input
  | .output => { Access.output with isNew }
  | .overwrite => .output
  | .extension => .extension
  | .exchange => .exchange

/-- How much of a text is put into a pipe at once. -/
def pipeText : Nat := 4096

/-- A descriptor from which a text can be read. -/
def openText (content : Bytes) : Step Nat := do
  let (source, target) ← ask .pipe
  if content.length ≤ pipeText then
    let _ ← (Action.write target content : Action _)
  else
    let _ ← Step.fork do
      ask (.close source)
      let _ ← (Action.write target content : Action _)
      setStatus 0
  ask (.close target)
  return source

/-- Opens what a redirection leads to: a new descriptor, or nothing if none is needed, or the complaint if there
still is one to make. -/
def openDirection : Direction → Step (Except Bytes (Option Nat))
  | .duplicate _ source => return .ok source
  | .text _ content => do
    match ← Step.attempt content with
    | .ok content => return .ok (some (← openText content))
    | .error .fail => return .error []
    | .error flow => throw flow
  | .file _ way path => do
    let isCareful := way = .output && (← get).isOn 'C'
    let v ← ask .view
    let isOther := (v.find? path.toText).any fun found => !System.Disk.isFileNode found.2
    match ← ask (.openFile path.toText (accessFor way (isCareful && !isOther))) with
    | .ok descriptor => return .ok (some descriptor)
    | .error e => return .error (complaint way path e)

/-- Keeps a copy of a descriptor unless there is one already. -/
def keep (descriptor : Nat) (isFree : Bool) (kept : List Kept) : Step (List Kept) := do
  if kept.any (·.descriptor = descriptor) then return kept
  else if isFree then return ⟨descriptor, none⟩ :: kept
  else match ← ask (.copy descriptor leastCopy true) with
    | .ok copy =>
      ask (.close descriptor)
      return ⟨descriptor, some copy⟩ :: kept
    | .error _ => return ⟨descriptor, none⟩ :: kept

/-- Makes a descriptor lead where another one leads; a new one is closed. Gives the complaint if that fails. -/
def connect (direction : Direction) (source : Nat) : Step (Option Bytes) := do
  let descriptor := direction.descriptor
  match ← ask (.place source descriptor) with
  | .error e =>
    return some (Bytes.decimal source ++ Bytes.ofString (": " ++ e.description))
  | .ok _ =>
    match direction with
    | .duplicate _ _ => return none
    | _ =>
      ask (.close source)
      return none

/-- Redirects descriptors one after the other; gives what has been kept, and whether all went well. -/
def apply : List Direction → List Kept → Step (List Kept × Bool)
  | [], kept => return (kept, true)
  | direction :: rest, kept => do
    let descriptor := direction.descriptor
    match direction with
    | .duplicate _ (some source) =>
      if source = descriptor then return ← apply rest kept
    | _ => pure ()
    match ← openDirection direction with
    | .error complaint =>
      if !complaint.isEmpty then blame complaint
      return (kept, false)
    | .ok opened =>
      let kept ← keep descriptor (opened = some descriptor) kept
      match opened with
      | none =>
        ask (.close descriptor)
        apply rest kept
      | some source =>
        if source = descriptor then apply rest kept
        else match ← connect direction source with
          | none => apply rest kept
          | some complaint =>
            blame complaint
            return (kept, false)

/-- Makes descriptors lead again where they led. -/
def restore : List Kept → Step Unit
  | [] => return
  | kept :: rest => do
    match kept.copy with
    | none => ask (.close kept.descriptor)
    | some copy =>
      let _ ← ask (.place copy kept.descriptor)
      ask (.close copy)
    restore rest

/-- Forgets where descriptors led. -/
def forget : List Kept → Step Unit
  | [] => return
  | kept :: rest => do
    if let some copy := kept.copy then ask (.close copy)
    forget rest

/-- Carries out a step with redirected descriptors. The status tells if that was not possible. -/
def around (directions : List Direction) (body : Step Unit) : Step Unit := do
  let (kept, isReady) ← apply directions []
  let outcome ← Step.attempt (if isReady then body else setStatus 2)
  restore kept
  Step.resume outcome

end Redirect

end Stopwatch.Shell
