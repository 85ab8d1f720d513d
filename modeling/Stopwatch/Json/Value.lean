import Stopwatch.Json.Literal

/-!
# JSON values

Members of an object keep their order and may repeat a name. A string literal whose escapes spell a
lone half of a surrogate pair denotes no text; it is the label `none`, which is harmless in a part
of a document that nobody reads.
-/

namespace Stopwatch.Json

/-- The text of a string literal, if its escapes denote one. -/
abbrev Label := Option String

inductive Value where
  | null
  | bool (b : Bool)
  | number (n : Literal)
  | string (s : Label)
  | array (items : List Value)
  | object (members : List (Label × Value))
deriving Repr, Inhabited

namespace Value

/-- The string value of a text. -/
def text (s : String) : Value := string (some s)

end Value

end Stopwatch.Json
