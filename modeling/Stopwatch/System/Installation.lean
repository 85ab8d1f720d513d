import Stopwatch.Shell.Run
import Stopwatch.System.Schedule
import Stopwatch.Tool.Blocks
import Stopwatch.Tool.Calculation
import Stopwatch.Tool.Count
import Stopwatch.Tool.Ends
import Stopwatch.Tool.Facts
import Stopwatch.Tool.Files
import Stopwatch.Tool.Launch
import Stopwatch.Tool.Lines
import Stopwatch.Tool.Listing
import Stopwatch.Tool.Order
import Stopwatch.Tool.Parts
import Stopwatch.Tool.Paths
import Stopwatch.Tool.Transfer
import Stopwatch.Tool.Translation

/-!
# Installations

A machine on which nothing but the tools and the shell is installed.

- `Installation.disk`: its files;
- `Installation.programOf`: its programs;
- `Installation.machine`: the machine itself.
-/

namespace Stopwatch.Tool

/-- The tools that come with the system, by name. -/
def catalogue : List (String × Errand) :=
  [("[", test true), ("basename", basename), ("cat", cat), ("chmod", chmod), ("cp", cp), ("cut", cut),
    ("date", date), ("dd", dd), ("dirname", dirname), ("echo", echo), ("env", env), ("expr", calculate),
    ("false", return 1), ("head", head), ("id", id), ("kill", kill), ("ln", ln), ("ls", ls),
    ("mkdir", mkdir), ("mkfifo", mkfifo), ("mktemp", mktemp), ("mv", mv), ("nice", nice), ("nohup", nohup),
    ("printenv", printenv), ("printf", printf), ("pwd", pwd), ("readlink", readlink),
    ("realpath", realpath), ("rm", rm), ("rmdir", rmdir), ("seq", seq), ("sha256sum", fingerprints),
    ("sleep", sleep), ("sort", sort), ("tac", tac), ("tail", tail), ("tee", tee), ("test", test false),
    ("timeout", timeout), ("touch", touch), ("tr", tr), ("true", return 0), ("uname", uname),
    ("uniq", uniq), ("wc", wc), ("whoami", line "root"), ("yes", yes)]

end Stopwatch.Tool

namespace Stopwatch.System

namespace Installation

/-- The names of the shell. -/
def shells : List String := ["dash", "sh"]

/-- The program that an image is. -/
def programOf (image : Image) : Program :=
  if shells.contains image.tool then Shell.Run.programOf image
  else match Tool.catalogue.lookup image.tool with
    | some tool => Tool.programOf tool image
    | none => .exit 0

/-- The users of the system, each with a home. -/
def users : String :=
  "root:x:0:0:root:/root:/bin/bash\n" ++
  "daemon:x:1:1:daemon:/usr/sbin:/usr/sbin/nologin\n" ++
  "bin:x:2:2:bin:/bin:/usr/sbin/nologin\n" ++
  "sys:x:3:3:sys:/dev:/usr/sbin/nologin\n" ++
  "nobody:x:65534:65534:nobody:/nonexistent:/usr/sbin/nologin\n"

/-- The directories. -/
def directories : List Location :=
  [["usr"], ["bin", "usr"], ["sbin", "usr"], ["local", "usr"], ["bin", "local", "usr"], ["sbin", "local", "usr"],
    ["etc"], ["root"], ["home"], ["var"], ["tmp"], ["proc"], ["dev"], ["fd", "dev"]]

/-- The devices and links that lead to them. -/
def devices : List (Location × Node) :=
  let device (name : String) (d : Device) : Location × Node := ([name, "dev"], .device d)
  let stream (name : String) (n : Nat) : Location × Node := ([name, "dev"], .link ("fd/" ++ toString n))
  [device "null" .null, device "zero" .zero, device "full" .full, device "random" .zero, device "urandom" .zero,
    device "tty" .terminal, stream "stdin" 0, stream "stdout" 1, stream "stderr" 2] ++
  (List.range 10).map fun n => ([toString n, "fd", "dev"], .device (.descriptor n))

/-- The executables and links that lead to them. -/
def executables : List (Location × Node) :=
  [(["bin"], .link "usr/bin"), (["sbin"], .link "usr/sbin"), (["dash", "bin", "usr"], .tool "dash"),
    (["sh", "bin", "usr"], .link "dash")] ++
  Tool.catalogue.map fun (name, _) => ([name, "bin", "usr"], .tool name)

/-- The files of the system at some time. What the system tells about its processes cannot be changed. -/
def disk (now : Nat) : Disk :=
  let bare : Disk :=
    { entries := directories.map (·, .directory) ++ devices ++ executables
      files := #[]
      closed := [["proc"]]
      now }
  bare.makeFile ["passwd", "etc"] users.toUTF8 Disk.usualMode

/-- Where executables are looked for. -/
def searchPath : String := "/usr/local/sbin:/usr/local/bin:/usr/sbin:/usr/bin:/sbin:/bin"

/-- The number of whoever starts programs. -/
def owner : Nat := 100

/-- A machine with some files at some time. -/
def machineWith (disk : Disk) (now : Nat) : Machine where
  disk
  now
  processes := []
  openings := []
  pipes := []
  outlets := []
  fresh := 0
  nextPid := owner + 1
  owner
  programOf

/-- The machine at some time. -/
def machine (now : Nat) : Machine := machineWith (disk now) now

end Installation

end Stopwatch.System
