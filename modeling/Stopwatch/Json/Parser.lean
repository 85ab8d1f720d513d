import Stopwatch.Json.Token

/-!
# Parsing JSON

The parser is an automaton on tokens. Its state holds the containers that are still open, innermost
first, so a value that is complete leaves the rest of the state alone: reading the tokens of a value
in any state that expects one pushes exactly that value.
-/

namespace Stopwatch.Json

/-- A container that is still open; lists are kept last element first. In an object, `name` belongs
to the value that comes next. -/
inductive Frame where
  | array (items : List Value)
  | object (members : List (Label × Value)) (name : Label)
deriving Repr

/-- What the parser expects next, inside the open containers. -/
inductive Expect where
  /-- A value. -/
  | value (frames : List Frame)
  /-- A value, or the end of the array that was just opened. -/
  | valueOrEnd (frames : List Frame)
  /-- A member name, or the end of the object that was just opened. -/
  | nameOrEnd (frames : List Frame)
  /-- A member name, after a comma. -/
  | name (members : List (Label × Value)) (frames : List Frame)
  /-- The colon after a member name. -/
  | colon (members : List (Label × Value)) (name : Label) (frames : List Frame)
  /-- A comma or the end of the innermost container: the value `v` is complete. -/
  | more (v : Value) (frames : List Frame)
deriving Repr

namespace Expect

/-- Takes a token where a value must begin. -/
def beginValue (frames : List Frame) : Token → Option Expect
  | .null => some (more .null frames)
  | .bool b => some (more (.bool b) frames)
  | .number n => some (more (.number n) frames)
  | .string s => some (more (.string s) frames)
  | .openArray => some (valueOrEnd frames)
  | .openObject => some (nameOrEnd frames)
  | _ => none

/-- Takes one token. -/
def step : Expect → Token → Option Expect
  | value frames, t => beginValue frames t
  | valueOrEnd frames, .closeArray => some (more (.array []) frames)
  | valueOrEnd frames, t => beginValue (.array [] :: frames) t
  | nameOrEnd frames, .closeObject => some (more (.object []) frames)
  | nameOrEnd frames, .string s => some (colon [] s frames)
  | nameOrEnd _, _ => none
  | name members frames, .string s => some (colon members s frames)
  | name _ _, _ => none
  | colon members s frames, .colon => some (value (.object members s :: frames))
  | colon _ _ _, _ => none
  | more v (.array items :: frames), .comma => some (value (.array (v :: items) :: frames))
  | more v (.array items :: frames), .closeArray =>
    some (more (.array (v :: items).reverse) frames)
  | more v (.object members s :: frames), .comma => some (name ((s, v) :: members) frames)
  | more v (.object members s :: frames), .closeObject =>
    some (more (.object ((s, v) :: members).reverse) frames)
  | more _ _, _ => none

/-- The value that was read, if no container is open. -/
def result? : Expect → Option Value
  | more v [] => some v
  | _ => none

end Expect

/-- The value that the tokens spell. -/
def Value.ofTokens? (ts : List Token) : Option Value :=
  (ts.foldlM Expect.step (Expect.value [])).bind Expect.result?

/-- Reads a whole text as one value. -/
def Value.parse? (text : String) : Option Value :=
  (scan text.toList).bind Value.ofTokens?

end Stopwatch.Json
