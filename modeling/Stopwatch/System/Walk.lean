import Stopwatch.Host
import Stopwatch.System.Disk

/-!
# Walks

What a walk through a directory of a disk comes across: everything at any depth, under the path that leads to
it, with what stands there.
-/

namespace Stopwatch.System.Disk

/-- What is at any depth below a directory, with links followed. A link to a directory that the search is
already in is an error, as is one that leads nowhere. -/
def walkFrom (disk : Disk) :
    (fuel : Nat) → (inside : List Location) → Location → String → List (Except IoError Entry)
  | 0, _, _, _ => []
  | fuel + 1, inside, location, shown =>
    (disk.children location).flatMap fun (name, node) =>
      let path := Path.join shown name
      match node, disk.find? location name with
      | _, none => [.error (.system .notFound)]
      | .link _, some (target, .directory) =>
        if inside.contains target then [.error (.system .tooManyLinks)]
        else .ok ⟨path, .directory⟩ :: walkFrom disk fuel (target :: inside) target path
      | _, some (target, .directory) =>
        .ok ⟨path, .directory⟩ :: walkFrom disk fuel (target :: inside) target path
      | _, some (_, found) => [.ok ⟨path, if isFileNode found then .file else .other⟩]

/-- What a path leads to and, if that is a directory, all that is at any depth below it. The paths start
with that path. -/
def walk (disk : Disk) (origin : Location) (path : String) : List (Except IoError Entry) :=
  match disk.find? origin path with
  | none => [.error (.system .notFound)]
  | some (location, .directory) =>
    let size := disk.entries.length + 1
    .ok ⟨path, .directory⟩ :: walkFrom disk (size * size) [location] location path
  | some (_, node) => [.ok ⟨path, if isFileNode node then .file else .other⟩]

end Stopwatch.System.Disk
