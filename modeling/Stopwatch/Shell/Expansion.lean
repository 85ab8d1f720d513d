import Stopwatch.Shell.Arithmetic
import Stopwatch.Shell.Field
import Stopwatch.Shell.Redirect
import Stopwatch.Shell.Tilde

/-!
# Expansions

What the words of a command stand for. The output of other commands can be a part of a word, so all expansions here
take a function that carries out a command and gives its output.

- `Expansion.atoms`: what a word consists of after its expansions;
- `Expansion.text`: the text of a word that is not split;
- `Expansion.fields`: the texts that a word gives as an argument;
- `Expansion.direction`: a redirection with its words expanded.
-/

namespace Stopwatch.Shell.Expansion

open Step (ask assign giveUp)

/-! ### Parts of words -/

/-- A text without the line feeds at its end. -/
def dropLineFeeds (text : Bytes) : Bytes := (text.reverse.dropWhile (· = '\n')).reverse

/-- Whether an expansion makes nothing of a parameter without a value. -/
def needsValue : Form → Bool
  | .value => true
  | .size => true
  | .dropStart _ => true
  | .dropEnd _ => true
  | _ => false

/-- Whether a parameter is a value that counts; an empty one does not if there is a colon. -/
def isSet (colon : Bool) : Option Bytes → Bool
  | none => false
  | some value => !(colon && value.isEmpty)

/-- The home of a user, or of whoever runs the shell if there is no name. -/
def home? (user : Bytes) : Step (Option Bytes) := do
  if user.isEmpty then return (← get).valueOf? "HOME".toList
  else
    let v ← ask .view
    return (v.read "/etc/passwd").toOption.bind fun users => Tilde.home? (Bytes.ofByteArray users) user

/-- The atoms of a part of an unquoted text. A home is not split. -/
def tildeAtoms : Tilde.Part → Step (List Atom)
  | .text text => return text.map fun c => .fixed ⟨c, false⟩
  | .home user => do
    match ← home? user with
    | some home => return home.map fun c => .fixed ⟨c, true⟩
    | none => return ('~' :: user).map fun c => .fixed ⟨c, false⟩

/-- The atoms of a text as it stands in a word. -/
def literalAtoms (mode : Tilde.Mode) (isFirst isLast isQuoted : Bool) (text : Bytes) : Step (List Atom) := do
  if isQuoted then return Atom.quoted text
  else return (← (Tilde.parts mode isFirst isLast text).mapM tildeAtoms).flatten

/-- Whether a name stands for all parameters. -/
def isAll (name : Bytes) : Bool := name = ['@'] || name = ['*']

/-- What stands between the parameters in the value of all of them. In a word that is split it is a border, but for
quotes that make one text of them. -/
def jointOf (s : State) (isSplit isQuoted : Bool) (name : Bytes) : Form → Bytes
  | .size => s.joint
  | .instead _ => s.joint
  | _ =>
    if !isSplit || (isQuoted && name = ['*']) then s.joint
    else if isQuoted || (s.valueOf? "IFS".toList).isSome then [Pattern.borderMark]
    else s.joint

/-- The value of a parameter, if it has one. With the right option some expansions fail without one. -/
def parameterValue (isSplit isQuoted : Bool) (name : Bytes) (form : Form) : Step (Option Bytes) := do
  let s ← get
  let value := if isAll name then some ((jointOf s isSplit isQuoted name form).intercalate s.parameters)
    else s.parameter? name
  if s.isOn 'u' && value.isNone && needsValue form then
    giveUp (name ++ Bytes.ofString ": parameter not set")
  return value

/-- The atoms of the result of an expansion of a parameter, if there is one. -/
def resultAtoms (s : State) (isQuoted : Bool) (name : Bytes) : Option Bytes → List Atom
  | none => if isQuoted then [.quotes] else []
  | some text =>
    if isQuoted && name = ['@'] then
      if s.parameters.isEmpty then text.map fun c => .fixed ⟨c, true⟩ else Atom.ofParameters text
    else Atom.ofExpansion isQuoted text

/-- The value of a formula. Its assignments are made. -/
def formula (text : Bytes) : Step Bytes := do
  let s ← get
  match Arithmetic.evaluate (fun name => (s.valueOf? name).getD []) text with
  | .error e => giveUp (e.message text)
  | .ok (n, assignments) =>
    for (name, value) in assignments do
      assign name (Bytes.ofString (toString value))
    return Bytes.ofString (toString n)

/-- Where tildes have a meaning in the word of an expansion. -/
def inner : Tilde.Mode → Tilde.Mode
  | .value => .value
  | .argument => .value
  | _ => .word

/-! ### Words -/

variable (capture : Command → Step Bytes)

mutual

/-- The atoms of the parts of a word, of which the first one may be the start of the word. -/
def atomsFrom (mode : Tilde.Mode) (isSplit isFirst : Bool) : Word → Step (List Atom)
  | [] => return []
  | piece :: rest => do
    let first ← pieceAtoms mode isSplit isFirst rest.isEmpty piece
    return first ++ (← atomsFrom mode isSplit false rest)
termination_by structural word => word

/-- The atoms of a part of a word. -/
def pieceAtoms (mode : Tilde.Mode) (isSplit isFirst isLast : Bool) : Piece → Step (List Atom)
  | .literal isQuoted text => literalAtoms mode isFirst isLast isQuoted text
  | .arithmetic isQuoted body => do
    return Atom.ofExpansion isQuoted (← formula (Atom.text (← atomsFrom .nowhere false true body)))
  | .substitution isQuoted body => do
    return Atom.ofExpansion isQuoted (dropLineFeeds ((← capture body).filter (· ≠ '\x00')))
  | .parameter isQuoted name form word => do
    let value ← parameterValue isSplit isQuoted name form
    let result := resultAtoms (← get) isQuoted name
    let instead : Step (List Atom) := do
      return (if isQuoted then (.quotes :: ·) else Atom.loosenFrom false) (← atomsFrom (inner mode) isSplit true word)
    match form with
    | .invalid => giveUp (Bytes.ofString "Bad substitution")
    | .value => return result value
    | .size => return result (some (Bytes.decimal (value.getD []).length))
    | .orElse colon => if isSet colon value then return result value else instead
    | .instead colon => if isSet colon value then instead else return result (some [])
    | .orAssign colon =>
      if isSet colon value then return result value
      else
        let text := Atom.text (← atomsFrom .word false true word)
        assign name text
        return Atom.ofExpansion isQuoted text
    | .orFail colon =>
      if isSet colon value then return result value
      else
        let atoms ← atomsFrom .word false true word
        let text := if word.isEmpty then
            Bytes.ofString ("parameter not set" ++ if colon then " or null" else "")
          else Atom.text atoms
        giveUp (name ++ [':', ' '] ++ text)
    | .dropStart longest =>
      match value with
      | none => return result none
      | some value =>
        let pattern := Pattern.items (Atom.marks (← atomsFrom .word false true word))
        return result (some (Pattern.dropStart longest pattern value))
    | .dropEnd longest =>
      match value with
      | none => return result none
      | some value =>
        let pattern := Pattern.items (Atom.marks (← atomsFrom .word false true word))
        return result (some (Pattern.dropEnd longest pattern value))
termination_by structural piece => piece

end

/-- The atoms of a word, which is split or not. -/
def atoms (mode : Tilde.Mode) (isSplit : Bool) (word : Word) : Step (List Atom) :=
  atomsFrom capture mode isSplit true word

/-- The text of a word that is not split. -/
def text (mode : Tilde.Mode) (word : Word) : Step Bytes := return Atom.text (← atoms capture mode false word)

/-- The pattern that a word is. -/
def pattern (word : Word) : Step (List Pattern.Item) := do
  return Pattern.items (Atom.marks (← atoms capture .word false word))

/-- The texts that a word gives as an argument. -/
def fields (word : Word) : Step (List Bytes) := do
  let atoms ← atoms capture .word true word
  let s ← get
  return Field.texts (← ask .view) s.separators (s.isOn 'f') atoms

/-- Whether a word has the form of an assignment. -/
def isAssignment : Word → Bool
  | .literal false text :: _ =>
    let name := text.takeWhile (· ≠ '=')
    Step.isName name && name.length < text.length
  | _ => false

/-- The texts that a word gives to a command that may take assignments, which are not split. -/
def argument (isDeclaring : Bool) (word : Word) : Step (List Bytes) := do
  if isDeclaring && isAssignment word then return [← text capture .argument word] else fields capture word

/-- The texts that words give as arguments. -/
def arguments (isDeclaring : Bool) (words : List Word) : Step (List Bytes) := do
  return (← words.mapM (argument capture isDeclaring)).flatten

/-- The texts of the first words that give any, and the words that are left. -/
def firstFields : List Word → Step (List Bytes × List Word)
  | [] => return ([], [])
  | word :: rest => do
    match ← fields capture word with
    | [] => firstFields rest
    | texts => return (texts, rest)

/-! ### Redirections -/

/-- The descriptor that a text stands for, if it does not mean that one is closed. -/
def source (text : Bytes) : Step (Option Nat) := do
  let bad : Step (Option Nat) := do
    Step.blameLine (← get).reached (Bytes.ofString "Syntax error: Bad fd number")
    Step.setStatus 2
    throw .fail
  match text with
  | [c] => if c = '-' then return none else if c.isDigit then return some (c.toNat - '0'.toNat) else bad
  | _ => bad

/-- A redirection with its words expanded. The text of one that has a text is made later. -/
def direction : Redirection → Step Direction
  | .file descriptor way path => do return .file descriptor way (← text capture .word path)
  | .duplicate descriptor word => do return .duplicate descriptor (← source (← text capture .word word))
  | .text descriptor content => return .text descriptor (text capture .nowhere content)

/-- Redirections with their words expanded. -/
def directions (redirections : List Redirection) : Step (List Direction) := redirections.mapM (direction capture)

end Stopwatch.Shell.Expansion
