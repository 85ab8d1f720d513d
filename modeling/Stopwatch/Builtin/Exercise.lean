import Stopwatch.Workload

/-!
# Exercises

An exercise is a computation that is worth timing: a name, how far its counts are divided because it is
heavy, how many units of work it counts, and the computation. The computation starts from a word that
nothing is known about, so that it cannot be done ahead of time, and gives a word, so that it can be
consumed. `Draw` makes the inputs of exercises from a seed.
-/

namespace Stopwatch.Builtin

structure Exercise where
  name : String
  divisor : Nat
  units : Option Nat
  work : UInt64 → UInt64

namespace Exercise

/-- An exercise whose calls are cheap and whose units are not counted. -/
def plain (name : String) (work : UInt64 → UInt64) : Exercise := ⟨name, 1, none, work⟩

/-- An exercise that is called less often than others. -/
def heavy (name : String) (divisor : Nat) (work : UInt64 → UInt64) : Exercise :=
  ⟨name, divisor, none, work⟩

/-- The same exercise with a count of its units. -/
def counting (units : Nat) (e : Exercise) : Exercise := { e with units := some units }

/-- The workload that carries out an exercise. -/
def workload {m : Type → Type} [Monad m] (host : Host m) (plan : Plan) (e : Exercise) :
    Workload m where
  sampling := plan.scaled e.name e.divisor
  units := e.units
  call := do
    host.consume e.work
    pure (.ok ())

end Exercise

/-! ### Inputs -/

/-- The state of a linear congruential generator. -/
structure Draw where
  state : UInt64

namespace Draw

def ofSeed (seed : Nat) : Draw := ⟨UInt64.ofNat seed⟩

/-- The state after `d`. -/
def next (d : Draw) : Draw := ⟨d.state * 6364136223846793005 + 1442695040888963407⟩

/-- A number below the bound, made from the upper half of the state. -/
def below (bound : UInt64) (d : Draw) : UInt64 := (d.state >>> 33) % bound

/-- So many numbers below a bound. -/
def numbers (bound : UInt64) (d : Draw) : Nat → Array UInt64 → Array UInt64
  | 0, ns => ns
  | count + 1, ns => numbers bound d.next count (ns.push (d.next.below bound))

end Draw

/-- A text as a word: its length. -/
def size (s : String) : UInt64 := UInt64.ofNat s.length

/-- A count as a word. -/
def word (n : Nat) : UInt64 := UInt64.ofNat n

end Stopwatch.Builtin
