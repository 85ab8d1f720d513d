import Stopwatch.Decimal.Binary
import Stopwatch.Json.Codec

/-!
# Statistics of a list of samples

`Summary.ofSamples` reduces time samples to six figures. Order statistics use the total order of bit
patterns, so they depend on the samples and not on their order; sums go from left to right, starting
at minus zero, the neutral element of float addition.

Not all bit patterns that are no numbers are the same, and the total order tells them apart. So what has to
do with order is said of bit patterns: `Statistics.Extent` holds the order statistics of any patterns. Which
of the patterns that are no numbers a sum has, if it has one of them, is left to the machine.
-/

namespace Stopwatch

/-- Six figures of a list of samples, in milliseconds. -/
structure Summary where
  min : Float
  max : Float
  mean : Float
  median : Float
  stddev : Float
  total : Float
deriving DecidableEq, Repr, Inhabited

namespace Statistics

/-- The sum from left to right. -/
def sum (xs : List Float) : Float := xs.foldl (· + ·) (-0.0)

/-- Bit patterns in the total order. -/
def sorted (xs : List UInt64) : List UInt64 :=
  xs.mergeSort fun a b => decide (Decimal.place a ≤ Decimal.place b)

/-- Half the sum of two samples. -/
def halfSum (a b : UInt64) : UInt64 := ((Float.ofBits a + Float.ofBits b) / 2.0).toBits

/-- The middle sample of a sorted list, or the mean of the middle two, which `half` tells. -/
def median (half : UInt64 → UInt64 → UInt64) (sorted : List UInt64) : UInt64 :=
  let middle := sorted.length / 2
  if sorted.length % 2 = 0 then half (sorted.getD (middle - 1) 0) (sorted.getD middle 0)
  else sorted.getD middle 0

/-- The order statistics of some samples, as bit patterns. -/
structure Extent where
  min : UInt64
  max : UInt64
  median : UInt64
deriving DecidableEq, Repr, Inhabited

/-- The order statistics of some samples. -/
def Extent.of (half : UInt64 → UInt64 → UInt64) (xs : List UInt64) : Extent :=
  let ys := sorted xs
  ⟨ys.getD 0 0, ys.getD (ys.length - 1) 0, Statistics.median half ys⟩

/-- The standard deviation of a whole population around its mean. -/
def stddev (xs : List Float) (mean : Float) : Float :=
  (sum (xs.map fun x => (x - mean) * (x - mean)) / Float.ofNat xs.length).sqrt

end Statistics

namespace Summary

/-- All figures are zero: no samples. -/
def zero : Summary := ⟨0.0, 0.0, 0.0, 0.0, 0.0, 0.0⟩

/-- The figures of a list of samples. -/
def ofSamples (xs : List Float) : Summary :=
  if xs.isEmpty then zero
  else
    let extent := Statistics.Extent.of Statistics.halfSum (xs.map Float.toBits)
    let total := Statistics.sum xs
    let mean := total / Float.ofNat xs.length
    { min := .ofBits extent.min
      max := .ofBits extent.max
      mean
      median := .ofBits extent.median
      stddev := Statistics.stddev xs mean
      total }

open Json in
def codec : Codec Summary :=
  .record
    (.cons (.required "min" .float) <|
      .cons (.required "max" .float) <|
      .cons (.required "mean" .float) <|
      .cons (.required "median" .float) <|
      .cons (.required "stddev" .float) <|
      .cons (.required "total" .float) .nil)
    (fun s => (s.min, s.max, s.mean, s.median, s.stddev, s.total, ()))
    (fun (min, max, mean, median, stddev, total, _) => ⟨min, max, mean, median, stddev, total⟩)

end Summary

end Stopwatch
