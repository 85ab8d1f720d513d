import Stopwatch.Profile
import Stopwatch.Text.Quoted

/-!
# Workloads

A workload is an action that is called over and over; whatever it keeps from one call to the next is in
the state of the monad. A category is a named list of workloads, measured in order, and the first failure
ends the measurement.
-/

namespace Stopwatch

/-- An action that is timed. It fails with a text. -/
structure Workload (m : Type → Type) where
  sampling : Sampling
  /-- Units of work in a call, if they are counted. -/
  units : Option Nat
  call : m (Except String Unit)

/-- Workloads that belong together. -/
structure Category (m : Type → Type) where
  name : String
  workloads : List (Workload m)

namespace Workload

variable {m : Type → Type} [Monad m]

/-- The measurement of a workload, with its throughput if its units are counted. -/
def measure (gauges : Gauges m) (sampler : Sampler) (w : Workload m) :
    ExceptT Halt m (Except String TestResult) := do
  match ← sampler.tryRun gauges w.sampling w.call with
  | .error e => pure (.error e)
  | .ok t => pure (.ok (w.units.elim t fun units => Sampler.withThroughput units t))

/-- A workload as it is shown to developers: its settings, but not its action. -/
def describe (w : Workload m) : String :=
  "Workload \x7b config: SamplerConfig \x7b name: " ++ Text.quoted w.sampling.name ++
    ", iterations: " ++ toString w.sampling.iterations ++ ", warmup: " ++ toString w.sampling.warmup ++
    " \x7d, units_per_iteration: " ++
    w.units.elim "None" (fun units => "Some(" ++ toString units ++ ")") ++ ", .. \x7d"

end Workload

namespace Category

variable {m : Type → Type} [Monad m]

/-- The measurements of some workloads of a category, up to the first failure. -/
def measureAll (gauges : Gauges m) (sampler : Sampler) (category : String) :
    List (Workload m) → ExceptT Halt m (Except Fault (List TestResult))
  | [] => pure (.ok [])
  | w :: ws => do
    match ← w.measure gauges sampler with
    | .error source => pure (.error (.measurement category w.sampling.name source))
    | .ok t =>
      match ← measureAll gauges sampler category ws with
      | .error e => pure (.error e)
      | .ok ts => pure (.ok (t :: ts))

/-- The measurement of a category. -/
def measure (gauges : Gauges m) (sampler : Sampler) (c : Category m) :
    ExceptT Halt m (Except Fault ResultGroup) := do
  match ← measureAll gauges sampler c.name c.workloads with
  | .error e => pure (.error e)
  | .ok tests => pure (.ok ⟨c.name, tests⟩)

/-- A category as it is shown to developers. -/
def describe (c : Category m) : String :=
  "Category \x7b name: " ++ Text.quoted c.name ++ ", workloads: [" ++
    ", ".intercalate (c.workloads.map Workload.describe) ++ "] \x7d"

end Category

end Stopwatch
