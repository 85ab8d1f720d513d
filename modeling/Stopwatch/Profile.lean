import Stopwatch.Sampler

/-!
# Profiles

How often workloads are called. The counts of a heavy workload are divided, but at least one timed call
remains.
-/

namespace Stopwatch

inductive Profile where
  | quick
  | full
deriving DecidableEq, Repr, Inhabited

namespace Profile

def all : List Profile := [quick, full]

def name : Profile → String
  | quick => "quick"
  | full => "full"

def iterations : Profile → Nat
  | quick => 20
  | full => 100

def warmup : Profile → Nat
  | quick => 3
  | full => 10

end Profile

/-- What determines the built-in workloads: the counts and the seed of their inputs. -/
structure Plan where
  profile : Profile
  seed : Nat
deriving DecidableEq, Repr

namespace Plan

/-- The plan that is followed unless another is given. -/
def standard : Plan := ⟨.quick, 0⟩

instance : Inhabited Plan := ⟨standard⟩

/-- The counts of the profile under a name. -/
def sampling (plan : Plan) (name : String) : Sampling :=
  ⟨name, plan.profile.iterations, plan.profile.warmup⟩

/-- The counts of the profile divided by `divisor`. -/
def scaled (plan : Plan) (name : String) (divisor : Nat) : Sampling :=
  (plan.sampling name).withCounts (max (plan.profile.iterations / max divisor 1) 1)
    (plan.profile.warmup / max divisor 1)

end Plan

end Stopwatch
