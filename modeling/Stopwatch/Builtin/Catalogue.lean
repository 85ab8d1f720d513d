import Std.Data.HashMap
import Std.Data.HashSet
import Std.Data.TreeMap
import Stopwatch.Builtin.Exercise

/-!
# The built-in categories

The exercises on scalars, on containers and on tasks, each in a namespace of its own, and the categories that
are made of them. These come in a fixed order, whatever the order of the selection. An empty selection
selects all.
-/

namespace Stopwatch.Builtin

/-! ### Exercises on numbers, texts and flags -/

namespace Scalars

/-- The number of steps of the arithmetic exercises. -/
def steps : Nat := 100000

/-- The number of operands that are drawn. -/
def operandCount : Nat := 1024

/-- Steps through some operands, over and over, and combines them. -/
def cycle {α β : Type} [Inhabited β] (combine : α → β → α) (operands : Array β) (start : α) :
    α :=
  Nat.fold steps (fun i _ acc => combine acc (operands.getD (i % operands.size) default)) start

def concatenation (start : String) (parts : Nat) : String :=
  Nat.fold parts (fun i _ s => s ++ "test" ++ toString i) start

/-- The total length of some slices of a text, the first of them at `start`. -/
def slicesLength (text : String) (start : Nat) : Nat :=
  Nat.fold 102 (fun i _ total => total + ((text.drop (start + 97 * i)).take 100).toString.length) 0

/-- The neighbours in a list that have some property together. -/
def neighbours (holds : Bool → Bool → Bool) (flags : Array Bool) : Nat :=
  (flags.toList.zip flags.toList.tail).countP fun (a, b) => holds a b

def exercises (plan : Plan) : List Exercise :=
  let operands := (Draw.ofSeed plan.seed).numbers 999999 operandCount #[] |>.map (· + 1)
  let floats := operands.map fun v => v.toFloat + 0.5
  let numerals := operands.map toString
  let flags := operands.map (· % 2 == 0)
  let sparse := operands.map fun v => if v % 3 == 0 then none else some v
  let long := String.ofList (List.replicate 10000 'a')
  let alphabet := "abcdefghijklmnopqrstuvwxyz".toList.toArray
  [ (Exercise.plain "Integer Addition" fun x =>
      Nat.fold steps (fun i _ acc => acc + word i) x).counting steps,
    (Exercise.plain "Integer Multiplication" fun _ =>
      cycle (fun acc v => acc * (v ||| 1)) operands 1).counting steps,
    (Exercise.plain "Float Division" fun _ =>
      (cycle (fun acc v => acc / (v / 1.0e6 + 1.0)) floats 1.0e300).toBits).counting steps,
    (Exercise.plain "Integer to String" fun _ =>
      operands.foldl (fun total v => total + size (toString v)) 0).counting operandCount,
    (Exercise.plain "String to Integer" fun _ =>
      numerals.foldl (fun total s => total + word (s.toNat?.getD 0)) 0).counting operandCount,
    .heavy "String Concatenation" 2 fun x => size (concatenation (toString x) 1000),
    .plain "String Slicing" fun x => word (slicesLength long (x.toNat % 2)),
    .plain "String Length Access" fun x => Nat.fold 1000 (fun _ _ total => total + size long) x,
    .plain "String Index Access" fun x =>
      Nat.fold 10000 (fun i _ total => total + (alphabet.getD (i % 26) 'a').val.toUInt64) x,
    .plain "Boolean AND" fun _ => word (neighbours (· && ·) flags),
    .plain "Boolean OR" fun _ => word (neighbours (· || ·) flags),
    .plain "Boolean NOT" fun _ => word (flags.toList.countP (!·)),
    .plain "Option None Check" fun _ => word (sparse.toList.countP Option.isNone) ]

end Scalars

/-! ### Exercises on containers -/

namespace Containers

/-- The length of the sequences. -/
def length : Nat := 10000

/-- Takes all elements off the end of an array and adds them. -/
def popAll (v : Array UInt64) : UInt64 :=
  (v.size.fold (fun _ _ (v, sum) => (v.pop, sum + v.back?.getD 0)) (v, 0)).2

def exercises (plan : Plan) : List Exercise :=
  let data := (Draw.ofSeed plan.seed).numbers 1000000 length #[]
  let probes := (Draw.ofSeed (plan.seed + 1)).numbers 1000000 1000 #[]
  let keys := (List.range 1000).map fun i => "key" ++ toString i
  let document : Json.Value := .object [
    (some "name", .text "bench"),
    (some "values", .array ((data.toList.take 1000).map fun n => .number (.ofNat n.toNat))),
    (some "keys", .array (keys.map .text))]
  let table : Std.HashMap String Nat := .ofList keys.zipIdx
  let tree : Std.TreeMap UInt64 UInt64 := .ofList (data.toList.map fun x => (x, x))
  let set : Std.HashSet UInt64 := .ofList data.toList
  let text := document.compact
  [ (Exercise.heavy "Vec Creation" 2 fun x =>
      word (Array.replicate length x).size).counting length,
    (Exercise.heavy "Vec Push" 2 fun x =>
      word (Nat.fold length (fun i _ v => v.push (x + word i)) #[]).size).counting length,
    .heavy "Vec Pop" 2 fun _ => popAll data,
    .heavy "Vec Map" 5 fun _ => word (data.map (· * 2)).size,
    .heavy "Vec Filter" 5 fun _ => word (data.filter (· % 2 == 0)).size,
    .heavy "Vec Reduce" 5 fun _ => data.foldl (· + ·) 0,
    .plain "Vec Index Access" fun _ =>
      Nat.fold 1000 (fun i _ best => max best (data.getD (i * 7 % data.size) 0)) 0,
    .heavy "Vec Sort" 5 fun _ => (data.toList.mergeSort (· ≤ ·)).headD 0,
    .heavy "HashMap Insert" 2 fun _ => word (Std.HashMap.ofList keys.zipIdx).size,
    .plain "HashMap Lookup" fun _ => word ((keys.filterMap fun k => table[k]?).foldl (· + ·) 0),
    .heavy "BTreeMap Iteration" 5 fun _ => tree.foldl (fun total _ v => total + v) 0,
    .plain "HashSet Contains" fun _ => word (probes.toList.countP set.contains),
    .heavy "JSON Serialize" 5 fun _ => size document.compact,
    .heavy "JSON Parse" 5 fun _ =>
      match Json.Value.parse? text with
      | some (.object members) => word members.length
      | _ => 0 ]

end Containers

/-! ### Exercises on tasks that run beside each other -/

namespace Tasks

/-- The number of tasks. -/
def taskCount : Nat := 10

/-- The number of steps of a task. -/
def stepsPerTask : Nat := 100000

/-- The work of one task. -/
def taskSum (start : UInt64) (steps : Nat) : UInt64 :=
  Nat.fold steps (fun i _ acc => acc + word i) start

/-- The sum of the results of tasks that all run at once. -/
def fanOut (tasks : List (Unit → UInt64)) : UInt64 :=
  let running := tasks.map fun work => Task.spawn work
  running.foldl (fun total task => total + task.get) 0

/-- An array in pieces of equal length, but for the last. -/
def pieces (data : Array UInt64) : List (Array UInt64) :=
  let width := data.size / taskCount + 1
  (List.range taskCount).map fun i => data.extract (i * width) ((i + 1) * width)

/-- Sorts the pieces of an array at once and merges them. -/
def sorted (data : Array UInt64) : List UInt64 :=
  let running := (pieces data).map fun p => Task.spawn fun _ => p.toList.mergeSort (· ≤ ·)
  running.foldl (fun done task => List.merge done task.get (· ≤ ·)) []

def exercises (plan : Plan) : List Exercise :=
  let data := Thunk.mk fun _ => (Draw.ofSeed plan.seed).numbers 1000000 200000 #[]
  let tasks (x : UInt64) : List (Unit → UInt64) :=
    List.replicate taskCount fun _ => taskSum x stepsPerTask
  [ (Exercise.heavy "Sequential Tasks" 2 fun x =>
      (tasks x).foldl (fun total work => total + work ()) 0).counting (taskCount * stepsPerTask),
    (Exercise.heavy "Parallel Tasks" 2 fun x => fanOut (tasks x)).counting (taskCount * stepsPerTask),
    (Exercise.heavy "Scoped Task Fan-out" 2 fun x => fanOut (tasks x)).counting (taskCount * stepsPerTask),
    .heavy "Parallel Map Collect" 5 fun _ =>
      fanOut ((pieces data.get).map fun p _ => word (p.map fun x => x * 3 + 1).size),
    .heavy "Parallel Sum" 2 fun _ => fanOut ((pieces data.get).map fun p _ => p.foldl (· + ·) 0),
    .heavy "Parallel Sort" 5 fun _ => (sorted data.get).headD 0 ]

end Tasks

/-! ### The catalogue -/

/-- What a selection may name. -/
inductive Choice where
  | all
  | basicTypes
  | collections
  | concurrency
deriving DecidableEq, Repr, Inhabited

namespace Choice

def choices : List Choice := [all, basicTypes, collections, concurrency]

def name : Choice → String
  | all => "all"
  | basicTypes => "basic-types"
  | collections => "collections"
  | concurrency => "concurrency"

end Choice

/-- Whether a selection contains a category. -/
def selects (selection : List Choice) (choice : Choice) : Bool :=
  selection.isEmpty || selection.contains .all || selection.contains choice

/-- A category with its exercises. -/
structure Catalogued where
  choice : Choice
  title : String
  exercises : Plan → List Exercise

/-- All built-in categories. -/
def catalogue : List Catalogued :=
  [⟨.basicTypes, "Basic Types", Scalars.exercises⟩,
    ⟨.collections, "Collections", Containers.exercises⟩,
    ⟨.concurrency, "Concurrency", Tasks.exercises⟩]

/-- The selected categories. -/
def categories {m : Type → Type} [Monad m] (host : Host m) (plan : Plan) (selection : List Choice) :
    List (Category m) :=
  (catalogue.filter fun c => selects selection c.choice).map fun c =>
    ⟨c.title, (c.exercises plan).map fun e => e.workload host plan⟩

end Stopwatch.Builtin
