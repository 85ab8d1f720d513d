import Stopwatch.Fault
import Stopwatch.Path
import Stopwatch.Text.Blank

/-!
# Suites

A suite is a named list of workload files. Its text has the name and then the files, one on a line; blank
lines and lines that start with a number sign mean nothing, and neither do blanks around a line.
-/

namespace Stopwatch

structure Suite where
  name : String
  files : List String
deriving DecidableEq, Repr, Inhabited

namespace Suite

/-- The lines of a text that mean something, without the blanks around them. -/
def significantLines (text : List Char) : List (List Char) :=
  ((Text.lines text).map Text.trimChars).filter fun l => !l.isEmpty && l.head? != some '#'

/-- Reads a suite; relative paths start at the base directory. -/
def parse (text base : String) : Except Fault Suite :=
  match (significantLines text.toList).map String.ofList with
  | [] => .error (.emptySuite "")
  | [name] => .error (.emptySuite name)
  | name :: files => .ok ⟨name, files.map (Path.join base)⟩

end Suite

end Stopwatch
