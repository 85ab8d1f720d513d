import Stopwatch.Host
import Stopwatch.Span

/-!
# Clocks

A clock counts milliseconds from the moment at which it was made. It reads one of two sources and never
changes from one to the other, so that the difference of two readings means something.
-/

namespace Stopwatch

/-- A span of nanoseconds in milliseconds: whole seconds and the rest of a second are turned into
floats on their own. -/
def milliseconds (nanoseconds : Nat) : Float :=
  (Float.ofNat (nanoseconds / Span.second) + Float.ofNat (nanoseconds % Span.second) / 1e9) * 1000.0

/-- Where a clock reads the time. -/
inductive ClockSource where
  | monotonic
  | wall
deriving DecidableEq, Repr, Inhabited

def ClockSource.name : ClockSource → String
  | monotonic => "monotonic"
  | wall => "wall-clock"

/-- A clock that counts milliseconds from its origin. Both origins are taken when the clock is made. -/
structure Clock where
  source : ClockSource
  origin : Nat
  wallOrigin : Float
deriving Inhabited

namespace Clock

variable {m : Type → Type} [Monad m]

/-- Makes a clock. -/
def start (gauges : Gauges m) (source : ClockSource) : m Clock := do
  let origin ← gauges.monotonic
  let wall ← gauges.wall
  pure ⟨source, origin, milliseconds wall⟩

/-- Reads a clock. The wall clock is held at zero when it is set to before its origin. -/
def now (gauges : Gauges m) (clock : Clock) : m Float := do
  match clock.source with
  | .monotonic =>
    let t ← gauges.monotonic
    pure (milliseconds (t - clock.origin))
  | .wall =>
    let t ← gauges.wall
    let elapsed := milliseconds t - clock.wallOrigin
    pure (if 0.0 < elapsed then elapsed else 0.0)

end Clock

end Stopwatch
