import Stopwatch.Clock
import Stopwatch.Memory
import Stopwatch.Results.Test

/-!
# The sampler

A sampler calls a workload: first some warmup calls that are not timed, then the timed ones. The time of
a call is the difference of two readings of one clock, in milliseconds, and memory figures are taken
before the first and after the last timed call. Room for the samples is set aside before the first timed
call, and more samples than a list can hold end the program there. Any room that a list can have is taken
to be there: that a system runs out of memory is not modelled.

- `Capabilities`: what the system offers for a measurement. They are found out once and then handed on;
  nothing asks again;
- `Sampler.reserve`: the room for the samples;
- `Sampler.tryRun`: the measurement of a workload that may fail; `run` for one that cannot;
- `opsPerSecond?`: the throughput of work that is counted in units.
-/

namespace Stopwatch

/-! ### Capabilities -/

structure Capabilities where
  /-- A clock that never goes back can be read. -/
  hasMonotonicClock : Bool
  /-- The memory figures of this process can be read. -/
  hasMemoryFigures : Bool
deriving DecidableEq, Repr, Inhabited

namespace Capabilities

/-- The wall clock and nothing else. -/
def minimal : Capabilities := ⟨false, false⟩

open Json in
def codec : Codec Capabilities :=
  .record
    (.cons (.required "hasHighResClock" .flag) <|
      .cons (.required "hasMemoryIntrospection" .flag) .nil)
    (fun c => (c.hasMonotonicClock, c.hasMemoryFigures, ()))
    (fun (hasMonotonicClock, hasMemoryFigures, _) => ⟨hasMonotonicClock, hasMemoryFigures⟩)

end Capabilities

/-! ### Measurements -/

/-- What to measure under which name. -/
structure Sampling where
  name : String
  iterations : Nat
  warmup : Nat
deriving DecidableEq, Repr, Inhabited

/-- The same name with other counts. -/
def Sampling.withCounts (s : Sampling) (iterations warmup : Nat) : Sampling :=
  { s with iterations, warmup }

/-- Units of work per second; none if no time has passed. -/
def opsPerSecond? (units iterations : Nat) (total : Float) : Option Float :=
  if total ≤ 0.0 then none
  else some (Float.ofNat units * Float.ofNat iterations / (total / 1000.0))

structure Sampler where
  clock : Clock
  capabilities : Capabilities
deriving Inhabited

namespace Sampler

/-- The clock that the capabilities allow. -/
def preferredSource (capabilities : Capabilities) : ClockSource :=
  if capabilities.hasMonotonicClock then .monotonic else .wall

variable {m : Type → Type} [Monad m] {ε : Type}

/-- A sampler on the clock that the capabilities allow. -/
def start (gauges : Gauges m) (capabilities : Capabilities) : m Sampler := do
  let clock ← Clock.start gauges (preferredSource capabilities)
  pure ⟨clock, capabilities⟩

/-- The memory figures in a status text, if there is such a text. -/
def figures? : Option String → Except Halt (Option Memory.Snapshot)
  | none => return none
  | some status => Memory.Snapshot.ofStatus? status

/-- The memory figures of this process now, if there are any to be had. -/
def snapshot? (gauges : Gauges m) (sampler : Sampler) : ExceptT Halt m (Option Memory.Snapshot) := do
  if sampler.capabilities.hasMemoryFigures then
    let status ← gauges.status
    figures? status
  else pure none

/-- A list takes less than `2 ^ 63` bytes, and a sample takes eight: so many samples are too many. -/
def sampleLimit : Nat := 0x1000000000000000

/-- Sets room for so many samples aside. -/
def reserve (n : Nat) : Except Halt Unit :=
  if n < sampleLimit then .ok () else .error .tooManySamples

/-- Calls a workload so many times, up to its first failure. -/
def warmUp (call : m (Except ε Unit)) : Nat → m (Except ε Unit)
  | 0 => pure (.ok ())
  | n + 1 => do
    match ← call with
    | .error e => pure (.error e)
    | .ok _ => warmUp call n

/-- One timed call: its outcome and how long it took. -/
def time (gauges : Gauges m) (clock : Clock) (call : m (Except ε Unit)) :
    m (Except ε Unit × Float) := do
  let before ← clock.now gauges
  let outcome ← call
  let after ← clock.now gauges
  pure (outcome, after - before)

/-- The times of so many calls, up to the first failure. -/
def samples (gauges : Gauges m) (clock : Clock) (call : m (Except ε Unit)) :
    Nat → m (Except ε (List Float))
  | 0 => pure (.ok [])
  | n + 1 => do
    let (outcome, elapsed) ← time gauges clock call
    match outcome with
    | .error e => pure (.error e)
    | .ok _ =>
      match ← samples gauges clock call n with
      | .error e => pure (.error e)
      | .ok rest => pure (.ok (elapsed :: rest))

/-- The difference of two snapshots, if both were taken. -/
def memoryDelta : Option Memory.Snapshot → Option Memory.Snapshot → Except Halt (Option Memory.Delta)
  | some before, some after => do
    let delta ← before.deltaTo after
    return some delta
  | _, _ => return none

/-- Measures a workload that may fail. Its first failure ends the measurement without a result. -/
def tryRun (gauges : Gauges m) (sampler : Sampler) (sampling : Sampling)
    (call : m (Except ε Unit)) : ExceptT Halt m (Except ε TestResult) := do
  match ← (warmUp call sampling.warmup : m _) with
  | .error e => pure (.error e)
  | .ok _ =>
    let before ← sampler.snapshot? gauges
    reserve sampling.iterations
    match ← (samples gauges sampler.clock call sampling.iterations : m _) with
    | .error e => pure (.error e)
    | .ok times =>
      let after ← sampler.snapshot? gauges
      let delta ← memoryDelta before after
      pure (.ok (.ofSamples sampling.name sampling.warmup times delta))

/-- A result that cannot be a failure. -/
def successOf {α : Type} : Except Empty α → α
  | .ok a => a

/-- Measures a workload that cannot fail. -/
def run (gauges : Gauges m) (sampler : Sampler) (sampling : Sampling) (call : m Unit) :
    ExceptT Halt m TestResult := do
  let outcome ← sampler.tryRun gauges sampling (do call; pure (Except.ok () : Except Empty Unit))
  pure (successOf outcome)

/-- A result with its throughput. -/
def withThroughput (units : Nat) (t : TestResult) : TestResult :=
  { t with opsPerSecond := opsPerSecond? units t.iterations t.stats.total }

/-- Measures a workload that is told how many units of work to do, and its throughput. -/
def runWithWork (gauges : Gauges m) (sampler : Sampler) (sampling : Sampling) (units : Nat)
    (call : Nat → m Unit) : ExceptT Halt m TestResult := do
  let t ← sampler.run gauges sampling (call units)
  pure (withThroughput units t)

end Sampler

end Stopwatch
