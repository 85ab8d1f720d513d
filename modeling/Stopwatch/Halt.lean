/-!
# The end of the program in the middle of its work

Some steps have no result at all: a moment that the clock cannot show, a list that would take more bytes
than a list may, an integer that is no word. The program does not go on after such a step. Its exit code is
that of a program that broke off, and a message tells the cause.

- `Halt`: the causes;
- `Checked`: the arithmetic on words and signed integers in which every result has to be one again.
-/

namespace Stopwatch

/-- The operations whose result may lie outside the range of its type. -/
inductive Operation where
  | product
  | difference
  | negation
deriving DecidableEq, Repr, Inhabited

/-- The operation, as it is told of when it fails. -/
def Operation.name : Operation → String
  | product => "multiply"
  | difference => "subtract"
  | negation => "negate"

/-- Why the program ends in the middle of its work. -/
inductive Halt where
  /-- A time limit ends later than the clock can show. -/
  | limitBeyondClock
  /-- A list was to have room for more samples than any list can hold. -/
  | tooManySamples
  /-- A result lies outside the range of its type. -/
  | overflow (operation : Operation)
deriving DecidableEq, Repr, Inhabited

namespace Halt

def message : Halt → String
  | limitBeyondClock => "overflow when adding duration to instant"
  | tooManySamples => "capacity overflow"
  | overflow operation => "attempt to " ++ operation.name ++ " with overflow"

/-- The exit code of a program that broke off. -/
def exitCode (_ : Halt) : Nat := 101

end Halt

/-! ### Checked arithmetic -/

namespace Checked

/-- The product of two words, which has to be a word. -/
def product (a b : UInt64) : Except Halt UInt64 :=
  if a.toNat * b.toNat < UInt64.size then .ok (a * b) else .error (.overflow .product)

/-- The difference of two words, which has to be a word. -/
def difference (a b : UInt64) : Except Halt UInt64 :=
  if b ≤ a then .ok (a - b) else .error (.overflow .difference)

/-- The negation of a signed integer, which has to be one. -/
def negation (a : Int64) : Except Halt Int64 :=
  if a = Int64.minValue then .error (.overflow .negation) else .ok (-a)

end Checked

end Stopwatch
