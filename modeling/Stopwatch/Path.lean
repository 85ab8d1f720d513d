/-!
# Paths

A path is a text whose components are separated by slashes. Empty components and single dots mean
nothing, except for a dot at the very start.

- `components`: the reading of a path;
- `fileName?`, `extension?`, `parent?`: its last component, the end of that, and what is before it;
- `join`: a path below another one;
- `compare`: the order of paths, component by component.
-/

namespace Stopwatch.Path

/-- A component of a path. -/
inductive Component where
  | root
  | here
  | parent
  | name (s : String)
deriving DecidableEq, Repr

/-- Splits at every slash. -/
def splitSlashes (current : List Char) : List Char → List (List Char)
  | [] => [current.reverse]
  | c :: cs => if c = '/' then current.reverse :: splitSlashes [] cs else splitSlashes (c :: current) cs

/-- The parts of a path between its slashes. -/
def parts (path : String) : List String := (splitSlashes [] path.toList).map String.ofList

/-- Whether a path starts at the root. -/
def isAbsolute (path : String) : Bool := path.toList.head? == some '/'

/-- The component that a part stands for, if any. -/
def component? (part : String) : Option Component :=
  if part = "" || part = "." then none
  else if part = ".." then some .parent
  else some (.name part)

/-- The components of a path. -/
def components (path : String) : List Component :=
  let inner := (parts path).filterMap component?
  if isAbsolute path then .root :: inner
  else if (parts path).head? = some "." then .here :: inner
  else inner

/-- The last component, unless it is a pair of dots or the root. -/
def fileName? (path : String) : Option String :=
  match (components path).getLast? with
  | some (.name s) => some s
  | _ => none

/-- `child` as seen from `base`: an absolute path stays as it is. -/
def join (base child : String) : String :=
  if isAbsolute child then child
  else if base = "" || base.toList.getLast? = some '/' then base ++ child
  else base ++ "/" ++ child

/-- The parts up to the last one that stands for a component. -/
def trimIdle (ps : List String) : List String :=
  (ps.reverse.dropWhile fun p => (component? p).isNone).reverse

/-- What is before the last component among some parts, as it is written there, or else `alone`. -/
def beforeLast (ps : List String) (alone : Option String) (whole : List String → String) :
    Option String :=
  match trimIdle ps with
  | [] => alone
  | named => some (whole (trimIdle named.dropLast))

/-- The path without its last component; the root and the empty path have none. What is left stays as it
is written, with the slashes and dots in the middle of it. -/
def parent? (path : String) : Option String :=
  match parts path with
  | [] => none
  | first :: rest =>
    if first = "." then beforeLast rest (some "") fun ps => "/".intercalate ("." :: ps)
    else if isAbsolute path then beforeLast rest none fun ps => "/" ++ "/".intercalate ps
    else beforeLast (first :: rest) none fun ps => "/".intercalate ps

/-- The end of a file name after its last dot, unless that dot is its first character. -/
def extensionOf? (fileName : String) : Option String :=
  let cs := fileName.toList
  let after := (cs.reverse.takeWhile (· != '.')).reverse
  let before := cs.length - after.length
  if before ≤ 1 then none else some (String.ofList after)

/-- The extension of a path. -/
def extension? (path : String) : Option String := (fileName? path).bind extensionOf?

/-- The place of a component among components. -/
def Component.rank : Component → Nat × List UInt8
  | root => (0, [])
  | here => (1, [])
  | parent => (2, [])
  | name s => (3, s.toUTF8.toList)

/-- Compares components byte by byte. -/
def Component.compare (a b : Component) : Ordering :=
  (Ord.compare a.rank.1 b.rank.1).then (Ord.compare a.rank.2 b.rank.2)

/-- Compares lists of components; a path comes before the paths below it. -/
def compareComponents : List Component → List Component → Ordering
  | [], [] => .eq
  | [], _ :: _ => .lt
  | _ :: _, [] => .gt
  | a :: as, b :: bs => (a.compare b).then (compareComponents as bs)

/-- The order of paths. -/
def compare (a b : String) : Ordering := compareComponents (components a) (components b)

end Stopwatch.Path
