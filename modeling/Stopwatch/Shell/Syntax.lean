import Stopwatch.Bytes

/-!
# The syntax of shell scripts

The part of the POSIX shell language that workload engines are written in: words with quotes and
expansions, simple commands, pipelines, lists, and the compound commands.
-/

namespace Stopwatch.Shell

/-- What a parameter expansion gives. -/
inductive Form where
  /-- The value. -/
  | value
  /-- The number of its bytes. -/
  | size
  /-- The value, or a word instead; `colon` also replaces an empty value. -/
  | orElse (colon : Bool)
  /-- The same, and the word is assigned. -/
  | orAssign (colon : Bool)
  /-- The value, or the end of the script with a message. -/
  | orFail (colon : Bool)
  /-- A word instead of a value that is there. -/
  | instead (colon : Bool)
  /-- The value without what matches a pattern at its start. -/
  | dropStart (longest : Bool)
  /-- The value without what matches a pattern at its end. -/
  | dropEnd (longest : Bool)
  /-- Nothing that the shell knows. -/
  | invalid
deriving DecidableEq, Repr, Inhabited

/-- Whether the word of an expansion is a pattern. -/
def Form.isPattern : Form → Bool
  | .dropStart _ => true
  | .dropEnd _ => true
  | _ => false

/-- What a redirection does with a file. -/
inductive Way where
  | input
  | output
  /-- Writing also over a file that is protected. -/
  | overwrite
  | extension
  /-- Reading and writing. -/
  | exchange
deriving DecidableEq, Repr, Inhabited

mutual

/-- A part of a word. -/
inductive Piece where
  | literal (quoted : Bool) (text : Bytes)
  | parameter (quoted : Bool) (name : Bytes) (form : Form) (word : List Piece)
  | substitution (quoted : Bool) (body : Command)
  | arithmetic (quoted : Bool) (body : List Piece)

inductive Redirection where
  | file (descriptor : Nat) (way : Way) (path : List Piece)
  | duplicate (descriptor : Nat) (source : List Piece)
  | text (descriptor : Nat) (content : List Piece)

inductive Command where
  | simple (line : Nat) (assignments : List (Bytes × List Piece)) (words : List (List Piece))
      (redirections : List Redirection)
  | pipeline (stages : List Command)
  | negation (body : Command)
  | both (first second : Command)
  | either (first second : Command)
  | sequence (commands : List Command)
  | background (line : Nat) (body : Command)
  | subshell (line : Nat) (body : Command) (redirections : List Redirection)
  | choice (condition yes no : Command)
  /-- Goes on as long as the condition succeeds, or as long as it fails. -/
  | loop (whileSuccess : Bool) (condition body : Command)
  | forEach (line : Nat) (name : Bytes) (items : Option (List (List Piece))) (body : Command)
  | select (line : Nat) (subject : List Piece) (arms : List (List (List Piece) × Command))
  | function (line : Nat) (name : Bytes) (body : Command)
  | redirected (line : Nat) (body : Command) (redirections : List Redirection)

end

instance : Inhabited Piece := ⟨.literal false []⟩

instance : Inhabited Redirection := ⟨.file 0 .input []⟩

instance : Inhabited Command := ⟨.sequence []⟩

/-- A word of a script. -/
abbrev Word := List Piece

end Stopwatch.Shell
