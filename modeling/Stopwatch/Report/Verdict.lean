import Stopwatch.Comparison

/-!
# Verdicts

A verdict says in one word how the candidate did on a test.
-/

namespace Stopwatch

inductive Verdict where
  | faster
  | similar
  | slower
deriving DecidableEq, Repr, Inhabited

namespace Verdict

/-- A slower candidate is similar as long as it differs by less than this many percent. -/
def similarBelow : Float := 10.0

/-- The verdict on a test from its faster side and its difference in percent. -/
def of (faster : Side) (percentDiff : Float) : Verdict :=
  match faster with
  | .candidate => .faster
  | .baseline => if percentDiff.abs < similarBelow then .similar else .slower

def name : Verdict → String
  | faster => "faster"
  | similar => "similar"
  | slower => "slower"

/-- The name as it is shown. -/
def title : Verdict → String
  | faster => "Faster"
  | similar => "Similar"
  | slower => "Slower"

def codec : Json.Codec Verdict := .word name [faster, similar, slower]

end Verdict

end Stopwatch
