import Stopwatch.CommandLine.Switch
import Stopwatch.Text.Similarity

/-!
# Mistakes

What can be wrong with a command line, by cause, and what is said about it: the mistake itself, what was
perhaps meant, and how the level is used.
-/

namespace Stopwatch.CommandLine

/-- What is wrong with a command line. `place` is an option or a word as it is shown, and `usage` how the
level is used on which the mistake was made. -/
inductive Mistake where
  | missingValue (place : String) (choices : List String)
  | noChoice (place value : String) (choices : List String)
  | refusedValue (place value reason : String)
  | extraValue (place value usage : String)
  | repeated (place usage : String)
  | missing (places : List String) (usage : String)
  | unknownArgument (text : String) (tips : List String) (usage : String)
  | unknownCommand (word : String) (similar : List String) (usage : String)
deriving DecidableEq, Repr, Inhabited

namespace Mistake

/-- The mistake of a value that is refused. -/
def ofRefusal (s : Switch) (value : String) : Refusal → Mistake
  | .empty => .missingValue s.shown (s.choices.map Prod.fst)
  | .noChoice => .noChoice s.shown value (s.choices.map Prod.fst)
  | .because reason => .refusedValue s.shown value reason

/-- The line with the values to choose from, if there are any. -/
def choiceLine (choices : List String) : String :=
  if choices.isEmpty then "" else "\n  [possible values: " ++ ", ".intercalate choices ++ "]"

/-- Lines with what was perhaps meant, below an empty one. -/
def tipLines (tips : List String) : String :=
  if tips.isEmpty then "" else "\n" ++ String.join (tips.map fun t => "\n  tip: " ++ t)

def usageLine (usage : String) : String := "\n\nUsage: " ++ usage

/-- The tip that names what is similar. -/
def similarTip (kind : String) : List String → List String
  | [] => []
  | [one] => ["a similar " ++ kind ++ " exists: '" ++ one ++ "'"]
  | all =>
    ["some similar " ++ kind ++ "s exist: " ++ ", ".intercalate (all.map fun a => "'" ++ a ++ "'")]

/-- The most similar text among some, if one is similar at all. -/
def mostSimilar? (text : String) (candidates : List String) : Option String :=
  (Text.Similarity.alike text candidates).getLast?

/-- All that is said about a mistake. -/
def message : Mistake → String
  | missingValue place choices =>
    "a value is required for '" ++ place ++ "' but none was supplied" ++ choiceLine choices
  | noChoice place value choices =>
    "invalid value '" ++ value ++ "' for '" ++ place ++ "'" ++ choiceLine choices ++
      tipLines (similarTip "value" (mostSimilar? value choices).toList)
  | refusedValue place value reason => "invalid value '" ++ value ++ "' for '" ++ place ++ "': " ++ reason
  | extraValue place value usage =>
    "unexpected value '" ++ value ++ "' for '" ++ place ++ "' found; no more were expected" ++
      usageLine usage
  | repeated place usage =>
    "the argument '" ++ place ++ "' cannot be used multiple times" ++ usageLine usage
  | missing places usage =>
    "the following required arguments were not provided:" ++
      String.join (places.map fun p => "\n  " ++ p) ++ usageLine usage
  | unknownArgument text tips usage =>
    "unexpected argument '" ++ text ++ "' found" ++ tipLines tips ++ usageLine usage
  | unknownCommand word similar usage =>
    "unrecognized subcommand '" ++ word ++ "'" ++ tipLines (similarTip "subcommand" similar) ++
      usageLine usage

end Mistake

/-- Why a command line is not carried out. -/
inductive Stop where
  /-- Help is asked for on a level, which is named, in short or at length. -/
  | help (level : String) (isLong : Bool)
  | version
  | mistake (m : Mistake)
deriving DecidableEq, Repr, Inhabited

end Stopwatch.CommandLine
