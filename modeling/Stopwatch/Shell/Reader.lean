import Stopwatch.Shell.Syntax

/-!
# Reading scripts

A reader that takes a script apart character by character. The depth of the grammar is bounded by fuel,
and a script of a given length never needs more of it than `Reader.fuelFor` allows.

- `Script.next`: the commands on the next line of a script, or the mistake in it. The commands on the lines
  before a mistake are carried out before it is found.
-/

namespace Stopwatch.Shell

/-- The end of a text that was put in place of a word. -/
structure Border where
  /-- How much is left to read behind the text. -/
  left : Nat
  /-- The word. -/
  name : Bytes
  /-- Whether the text ends in a blank, so that the word behind it is looked up as well. -/
  isOpen : Bool
deriving Repr, Inhabited

/-- The place of the reader in a script. -/
structure Cursor where
  rest : Bytes
  line : Nat
  /-- The lines of here-documents that have been taken out behind the current line. -/
  taken : Nat
  /-- How much is left to read behind the line feed where they were. -/
  gap : Nat
  /-- The lines that have been read when nothing is left, beyond those with a line feed. -/
  final : Nat
  /-- Whether this is the text of a here-document, and not a command in it. -/
  isHere : Bool
  /-- The words that stand for other texts where a command starts. -/
  aliases : List (Bytes × Bytes)
  /-- The ends of such texts that have been put in, innermost first. -/
  borders : List Border
deriving Inhabited

/-- What is wrong with a script, and on which line. -/
structure Mistake where
  line : Nat
  text : String
deriving Repr, Inhabited

/-- Reads something off the script, or complains. -/
abbrev Reader := StateT Cursor (Except Mistake)

namespace Reader

/-- The characters that end a word. -/
def isMeta (c : Char) : Bool :=
  c = ' ' || c = '\t' || c = '\n' || c = ';' || c = '&' || c = '|' || c = '<' || c = '>' || c = '(' || c = ')'

/-- The characters that a name may hold. -/
def isNameChar (c : Char) : Bool := c.isAlphanum || c = '_'

/-- The characters that stand for special parameters. -/
def isSpecial (c : Char) : Bool := ['@', '*', '#', '?', '-', '$', '!'].contains c

/-- Complains about the line that has been reached. -/
def fail {α : Type} (text : String) : Reader α := do
  let cursor ← get
  throw ⟨if cursor.rest.isEmpty then cursor.line + cursor.final else cursor.line, "Syntax error: " ++ text⟩

def peek : Reader (Option Char) := do
  return (← get).rest.head?

/-- Takes the next character. -/
def next : Reader (Option Char) := do
  let cursor ← get
  match cursor.rest with
  | [] => return none
  | c :: rest =>
    set (if c ≠ '\n' then { cursor with rest }
      else if cursor.taken = 0 || rest.length ≠ cursor.gap then { cursor with rest, line := cursor.line + 1 }
      else { cursor with rest, line := cursor.line + 1 + cursor.taken, taken := 0 })
    return some c

/-- Takes so many characters. -/
def skip : Nat → Reader Unit
  | 0 => return
  | n + 1 => do
    let _ ← next
    skip n

/-- Whether the rest of the script starts in some way. -/
def ahead (start : String) : Reader Bool := do
  return start.toList.isPrefixOf (← get).rest

/-- Takes the characters of a kind that come next. -/
def takeRun (isIn : Char → Bool) : Reader Bytes := do
  let run := (← get).rest.takeWhile isIn
  skip run.length
  return run

/-- The number of blanks, joined lines and comments at the start of some characters. -/
def blankLength : Bytes → Nat
  | ' ' :: cs => blankLength cs + 1
  | '\t' :: cs => blankLength cs + 1
  | '\\' :: '\n' :: cs => blankLength cs + 2
  | '#' :: cs => (cs.takeWhile (· ≠ '\n')).length + 1
  | _ => 0

def skipBlanks : Reader Unit := do
  skip (blankLength (← get).rest)

/-- Skips blanks and empty lines; `fuel` bounds their number. -/
def skipLines : (fuel : Nat) → Reader Unit
  | 0 => return
  | fuel + 1 => do
    skipBlanks
    if (← peek) = some '\n' then
      skip 1
      skipLines fuel

/-- The unquoted word that comes next, if it ends there. -/
def bareWord? : Reader (Option Bytes) := do
  let rest := (← get).rest
  let run := rest.takeWhile fun c => !isMeta c && !(['\'', '"', '\\', '$', '\x60'].contains c)
  match rest.drop run.length with
  | [] => return if run.isEmpty then none else some run
  | c :: _ => return if isMeta c && !run.isEmpty then some run else none

/-- Whether a reserved word comes next. -/
def atKeyword (word : String) : Reader Bool := do
  skipBlanks
  return (← bareWord?) = some word.toList

/-- Puts the text that a word stands for in its place, unless the word is part of such a text itself. Gives
whether it did. -/
def replaceAlias : Reader Bool := do
  let cursor ← get
  match ← bareWord? with
  | none => return false
  | some word =>
    match cursor.aliases.lookup word with
    | none => return false
    | some text =>
      if cursor.borders.any fun b => b.name = word && b.left < cursor.rest.length then return false
      let after := cursor.rest.drop word.length
      let isOpen := text.getLast?.any fun c => c = ' ' || c = '\t'
      set { cursor with rest := text ++ after, borders := ⟨after.length, word, isOpen⟩ :: cursor.borders }
      return true

/-- Whether a text that ends in a blank was put in just before the place that has been reached, `before` being
how much was left to read in front of the blanks there. -/
def isBehindAlias (before : Nat) : Reader Bool := do
  let cursor ← get
  return cursor.borders.any fun b => b.isOpen && cursor.rest.length ≤ b.left && b.left ≤ before

/-- Reads a text apart from the script, and goes on with the script. The text starts on some line. -/
def apart {α : Type} (text : Bytes) (line final : Nat) (isHere : Bool) (reader : Reader α) : Reader α := do
  let cursor ← get
  set { cursor with rest := text, line, taken := 0, gap := 0, final, isHere, borders := [] }
  let value ← reader
  set cursor
  return value

/-- Reads commands, which are no text of a here-document. -/
def amongCommands {α : Type} (reader : Reader α) : Reader α := do
  let isHere := (← get).isHere
  modify fun cursor => { cursor with isHere := false }
  let value ← reader
  modify fun cursor => { cursor with isHere }
  return value

/-- The words that end a list of commands. -/
def closingWords : List String := ["then", "do", "done", "fi", "elif", "else", "esac", "\x7d"]

/-- Whether a list of commands ends here. -/
def atEnd : Reader Bool := do
  skipBlanks
  match ← peek with
  | none => return true
  | some ')' => return true
  | some ';' => ahead ";;"
  | _ =>
    match ← bareWord? with
    | some w => return closingWords.contains (String.ofList w)
    | none => return false

/-- The commands of the shell whose mistakes end it. -/
def specialCommands : List String :=
  [":", ".", "break", "continue", "eval", "exec", "exit", "export", "readonly", "return", "set", "shift",
    "times", "trap", "unset"]

/-- Whether a word can be the name of a function. -/
def isFunctionName (word : Bytes) : Bool :=
  word.all isNameChar && word.head?.any (fun c => !c.isDigit) && !specialCommands.contains (String.ofList word)

/-- The words that mean something where a command starts. -/
def reservedWords : List String :=
  ["!", "\x7b", "case", "for", "if", "in", "until", "while"] ++ closingWords

/-- How a complaint names what comes next. -/
def nextToken : Reader String := do
  let rest := (← get).rest
  match rest with
  | [] => return "end of file"
  | c :: _ =>
    match symbols.find? fun symbol => symbol.toList.isPrefixOf rest with
    | some symbol => return quote symbol
    | none =>
      if c = '<' || c = '>' then return "redirection"
      else match ← bareWord? with
        | some w =>
          let word := String.ofList w
          return if reservedWords.contains word then quote word else "word"
        | none => return "word"
where
  symbols : List String := ["&&", "&", "||", "|", ";;", ";", "(", ")"]
  quote (text : String) : String := "\"" ++ text ++ "\""

/-- The complaint about whatever comes next, with what should be there. A line feed counts as read. -/
def unexpectedBefore {α : Type} (wanted : Option String) : Reader α := do
  let expecting := (wanted.map fun w => " (expecting \"" ++ w ++ "\")").getD ""
  if (← peek) = some '\n' then
    let _ ← next
    fail ("newline unexpected" ++ expecting)
  else fail ((← nextToken) ++ " unexpected" ++ expecting)

def unexpected {α : Type} : Reader α := unexpectedBefore none

/-- Takes a reserved word. -/
def expectWord (word : String) : Reader Unit := do
  if ← atKeyword word then skip word.length else unexpectedBefore (some word)

/-- Takes a character. -/
def expectChar (c : Char) : Reader Unit := do
  if (← peek) = some c then skip 1 else unexpectedBefore (some (String.ofList [c]))

/-- Complains about quotes that are not closed. A here-document has none but in braces, which are not closed then. -/
def failInQuotes {α : Type} : Reader α := do
  if (← get).isHere then fail "Missing '\x7d'" else fail "Unterminated quoted string"

/-- Complains about braces that are not closed. -/
def failInBraces {α : Type} (quoted : Bool) : Reader α := if quoted then failInQuotes else fail "Missing '\x7d'"

/-- Takes the characters up to a quote, and that quote. -/
def untilQuote : Reader Bytes := do
  let run ← takeRun (· ≠ '\'')
  if (← peek).isNone then failInQuotes
  skip 1
  return run

/-- Adds a literal in front of a word. -/
def addLiteral (quoted : Bool) (text : Bytes) : Word → Word
  | .literal q t :: rest =>
    if q = quoted then .literal q (text ++ t) :: rest
    else .literal quoted text :: .literal q t :: rest
  | rest => .literal quoted text :: rest

/-- Takes the characters of a command in backquotes; a backslash keeps its meaning unless it stands in
front of one of a few characters, to which a double quote belongs if all is inside of such. -/
def untilBackquote (inQuotes : Bool) : (fuel : Nat) → Reader Bytes
  | 0 => fail "EOF in backquote substitution"
  | fuel + 1 => do
    match ← next with
    | none => fail "EOF in backquote substitution"
    | some '\\' =>
      match ← next with
      | some c =>
        let rest ← untilBackquote inQuotes fuel
        return if c = '$' || c = '\\' || c = '\x60' || (c = '"' && inQuotes) then c :: rest
          else '\\' :: c :: rest
      | none => fail "EOF in backquote substitution"
    | some c => if c = '\x60' then return [] else return c :: (← untilBackquote inQuotes fuel)

/-- The form that an operator after a parameter name stands for, and the length of the operator. -/
def formOf : Bytes → Option (Form × Nat)
  | ':' :: '-' :: _ => some (.orElse true, 2)
  | ':' :: '=' :: _ => some (.orAssign true, 2)
  | ':' :: '?' :: _ => some (.orFail true, 2)
  | ':' :: '+' :: _ => some (.instead true, 2)
  | '-' :: _ => some (.orElse false, 1)
  | '=' :: _ => some (.orAssign false, 1)
  | '?' :: _ => some (.orFail false, 1)
  | '+' :: _ => some (.instead false, 1)
  | '#' :: '#' :: _ => some (.dropStart true, 2)
  | '#' :: _ => some (.dropStart false, 1)
  | '%' :: '%' :: _ => some (.dropEnd true, 2)
  | '%' :: _ => some (.dropEnd false, 1)
  | _ => none

/-- Whether the length of a parameter is meant in braces. A number sign may also be the name of a parameter, to which an
operator belongs. -/
def isSized : Bytes → Bool
  | '#' :: c :: rest => isNameChar c || (c ≠ '\x7d' && rest.head? = some '\x7d')
  | _ => false

/-- Takes the name of a parameter in braces. -/
def parameterName : Reader Bytes := do
  match ← peek with
  | none => return []
  | some c =>
    if c.isDigit then takeRun Char.isDigit
    else if isNameChar c then takeRun isNameChar
    else if isSpecial c then
      skip 1
      return [c]
    else return []

/-- What a place in a script is inside of. -/
inductive Nest where
  /-- Behind a backslash. -/
  | escape
  | quote
  | quotes
  | comment
  | parentheses
  | backquotes
  | braces
deriving DecidableEq, Repr

/-- What the place behind a character is inside of, innermost first, unless the line of a command ends there: that is a
line feed outside of quotes and expansions. The character before tells whether a comment or an expansion can start. -/
def nestsAfter (nests : List Nest) (before c : Char) : Option (List Nest) :=
  let inside := nests.head?
  let isEnding := match inside with
    | some .escape => true
    | some .quote => c = '\''
    | some .quotes => c = '"'
    | some .comment => c = '\n'
    | some .parentheses => c = ')'
    | some .backquotes => c = '\x60'
    | some .braces => c = '\x7d'
    | none => false
  let isRaw := inside = some .escape || inside = some .quote || inside = some .comment
  let isAmongCommands := inside = none || inside = some .parentheses || inside = some .backquotes
  if c = '\n' && (nests.isEmpty || nests = [.comment]) then none
  else if isEnding then some nests.tail
  else if isRaw then some nests
  else if c = '\\' then some (.escape :: nests)
  else if c = '"' then some (.quotes :: nests)
  else if c = '\x60' then some (.backquotes :: nests)
  else if c = '(' && (before = '$' || inside = some .parentheses) then some (.parentheses :: nests)
  else if c = '\x7b' && before = '$' then some (.braces :: nests)
  else if c = '\'' && inside ≠ some .quotes then some (.quote :: nests)
  else if c = '#' && isMeta before && isAmongCommands then some (.comment :: nests)
  else some nests

/-- What the place behind a character of a here-document is inside of: commands only, and not quotes around them. -/
def hereNestsAfter (nests : List Nest) (before c : Char) : List Nest :=
  if !nests.isEmpty then (nestsAfter nests before c).getD []
  else if c = '\\' then [.escape]
  else if c = '\x60' then [.backquotes]
  else if c = '(' && before = '$' then [.parentheses]
  else []

/-- How far it is to the line feed that ends the line of a command. -/
def lineLength (nests : List Nest) (before : Char) : Bytes → Nat
  | [] => 0
  | c :: cs =>
    match nestsAfter nests before c with
    | none => 0
    | some nests => lineLength nests c cs + 1

/-- The text of a here-document, whether its delimiter was found, and what is left of the script. -/
structure Excerpt where
  body : Bytes
  isEnded : Bool
  rest : Bytes

/-- Takes the lines up to a delimiter out of a script and gives them. A line that continues another one is no
delimiter, nor is one inside of a command; both exist only where there are expansions. -/
def hereLines (delimiter : Bytes) (stripTabs expands : Bool) :
    (fuel : Nat) → (isJoined : Bool) → List Nest → Bytes → Excerpt
  | 0, _, _, cs => ⟨[], false, cs⟩
  | fuel + 1, isJoined, nests, cs =>
    let raw := cs.takeWhile (· ≠ '\n')
    let isInside := isJoined || !nests.isEmpty
    let line := if stripTabs && !isInside then raw.dropWhile (· = '\t') else raw
    let isEnd := line = delimiter && !isInside
    match cs.drop raw.length with
    | [] => if isEnd || line.isEmpty then ⟨[], isEnd, []⟩ else ⟨line ++ ['\n'], false, []⟩
    | _ :: after =>
      if isEnd then ⟨[], true, after⟩
      else
        let (nests, before) := if expands then line.foldl step (nests, '\n') else ([], '\n')
        let isJoined := nests.head? = some .escape
        let others := hereLines delimiter stripTabs expands fuel isJoined (hereNestsAfter nests before '\n') after
        { others with body := line ++ '\n' :: others.body }
where
  step (place : List Nest × Char) (c : Char) : List Nest × Char := (hereNestsAfter place.1 place.2 c, c)

/-- Takes the text of a here-document, which starts behind the line. Gives it with the line on which it starts, and the
lines that end it. -/
def hereDocument (delimiter : Bytes) (stripTabs expands : Bool) : Reader (Bytes × Nat × Nat) := do
  let cursor ← get
  let current := cursor.rest.take (lineLength [] '<' cursor.rest)
  let after := cursor.rest.drop (current.length + 1)
  let excerpt := hereLines delimiter stripTabs expands (after.length + 1) false [] after
  set { cursor with
    rest := current ++ '\n' :: excerpt.rest
    taken := cursor.taken + after.countP (· = '\n') - excerpt.rest.countP (· = '\n')
    gap := excerpt.rest.length }
  return (excerpt.body, cursor.line + current.countP (· = '\n') + 1 + cursor.taken, if excerpt.isEnded then 1 else 0)

/-- Whether a word is a name followed by an equals sign, which makes it an assignment. -/
def assignmentName? (word : Word) : Option (Bytes × Word) :=
  match word with
  | .literal false text :: rest =>
    let name := text.takeWhile isNameChar
    match name.head?, text.drop name.length with
    | some c, '=' :: value =>
      if c.isDigit then none
      else some (name, if value.isEmpty then rest else .literal false value :: rest)
    | _, _ => none
  | _ => none

/-- The text of a word that has no expansions. -/
def plainText (word : Word) : Bytes :=
  word.flatMap fun
    | .literal _ t => t
    | _ => []

/-- Whether some part of a word is quoted. -/
def hasQuotes (word : Word) : Bool :=
  word.any fun
    | .literal q _ => q
    | .parameter q _ _ _ => q
    | .substitution q _ => q
    | .arithmetic q _ => q


/-- Takes the character behind a backslash inside of quotes, and gives the text that both stand for. A backslash keeps
its meaning in front of a few characters, to which others may belong. -/
def escaped (others : List Char) : Reader Bytes := do
  match ← next with
  | none => return ['\\']
  | some c => return if c = '\n' then [] else if ['$', '\\', '\x60'].contains c || others.contains c then [c] else ['\\', c]

/-- Takes characters that mean nothing. A line feed among them does not count. -/
def waste (count : Nat) : Reader Unit := modify fun cursor => { cursor with rest := cursor.rest.drop count }

/-- Takes the operator after the name of a parameter in braces, if there is a name. An operator that is none is lost with
the character it has for its form. -/
def parameterForm (sized hasName : Bool) : Reader Form := do
  let rest := (← get).rest
  match rest, sized, formOf rest with
  | '\x7d' :: _, _, _ => return if !hasName then .invalid else if sized then .size else .value
  | _, true, _ => return .invalid
  | _, false, some (form, length) =>
    if hasName then
      skip length
      return form
    else
      waste 1
      return .invalid
  | ':' :: '\x7d' :: _, false, none =>
    if hasName then
      skip 2
      return .orElse true
    else
      waste 1
      return .invalid
  | c :: _, false, none =>
    waste (if hasName && c = ':' then 2 else 1)
    return .invalid
  | [], false, none => return .invalid

/-- Whether the parts of a text in quotes need no other sign of the quotes: there may be nothing between them but
all parameters, and then nothing at all. -/
def standsAlone : Word → Bool
  | [.literal _ _] => true
  | [.parameter _ ['@'] .value _] => true
  | _ => false

mutual

/-- Takes the rest of a word. `stop` ends it, except inside quotes. -/
def pieces (stop : Char → Bool) : (fuel : Nat) → Reader Word
  | 0 => fail "too deep"
  | fuel + 1 => do
    match ← peek with
    | none => return []
    | some c =>
      if stop c then return []
      else if c = '\'' then
        skip 1
        let text ← untilQuote
        return addLiteral true text (← pieces stop fuel)
      else if c = '"' then
        skip 1
        let inner ← quotedPieces (stop '\x7d') fuel
        let rest ← pieces stop fuel
        return if standsAlone inner then inner ++ rest
          else addLiteral true [] inner ++ addLiteral true [] rest
      else if c = '\\' then
        skip 1
        match ← next with
        | none => return [.literal false ['\\']]
        | some '\n' => pieces stop fuel
        | some d => return addLiteral true [d] (← pieces stop fuel)
      else if c = '$' || c = '\x60' then
        let piece ← expansion false fuel
        return piece :: (← pieces stop fuel)
      else
        skip 1
        return addLiteral false [c] (← pieces stop fuel)

/-- Takes the rest of a text in double quotes, with the closing quote. A here-document has no closing quote:
it goes on to the end, and a quote means itself in it. Inside of braces a backslash has a meaning in front of the
closing one. -/
def quotedPieces (inBraces : Bool) : (fuel : Nat) → Reader Word
  | 0 => fail "too deep"
  | fuel + 1 => do
    let isHere := (← get).isHere && !inBraces
    match ← peek with
    | none => if isHere then return [] else failInQuotes
    | some c =>
      if c = '"' && !isHere then
        skip 1
        return []
      else if c = '\\' then
        skip 1
        let text ← escaped (if inBraces then ['"', '\x7d'] else if isHere then [] else ['"'])
        return addLiteral true text (← quotedPieces inBraces fuel)
      else if c = '$' || c = '\x60' then
        let piece ← expansion true fuel
        return piece :: (← quotedPieces inBraces fuel)
      else
        skip 1
        return addLiteral true [c] (← quotedPieces inBraces fuel)

/-- Takes a word in braces that stands inside of double quotes, without the closing brace. Quotes inside of the word
keep a brace from closing it. -/
def quotedWord (inQuotes : Bool) : (fuel : Nat) → Reader Word
  | 0 => fail "too deep"
  | fuel + 1 => do
    match ← peek with
    | none => failInBraces true
    | some c =>
      if c = '\x7d' && !inQuotes then return []
      else if c = '"' then
        skip 1
        quotedWord (!inQuotes) fuel
      else if c = '\\' then
        skip 1
        let text ← escaped ['"', '\x7d']
        return addLiteral true text (← quotedWord inQuotes fuel)
      else if c = '$' || c = '\x60' then
        let piece ← expansion true fuel
        return piece :: (← quotedWord inQuotes fuel)
      else
        skip 1
        return addLiteral true [c] (← quotedWord inQuotes fuel)

/-- Takes the rest of an arithmetic expression inside so many parentheses, with the two at its end. -/
def formula (depth : Nat) : (fuel : Nat) → Reader Word
  | 0 => fail "too deep"
  | fuel + 1 => do
    match ← peek with
    | none => fail "Missing '))'"
    | some c =>
      if c = '$' || c = '\x60' then
        let piece ← expansion true fuel
        return piece :: (← formula depth fuel)
      else if c = '\\' then
        skip 1
        let text ← escaped (if (← get).isHere then [] else ['"'])
        return addLiteral true text (← formula depth fuel)
      else if depth = 0 && (← ahead "))") then
        skip 2
        return []
      else
        skip 1
        let depth := if c = '(' then depth + 1 else if c = ')' then depth - 1 else depth
        return addLiteral true [c] (← formula depth fuel)

/-- Takes an expansion, which starts with a dollar sign or a backquote. -/
def expansion (quoted : Bool) : (fuel : Nat) → Reader Piece
  | 0 => fail "too deep"
  | fuel + 1 => do
    let first ← next
    if first = some ('\x60') then
      let text ← untilBackquote quoted ((← get).rest.length + 1)
      return .substitution quoted (← apart text 1 0 false (optionalCommands fuel))
    else if ← ahead "((" then
      skip 2
      return .arithmetic quoted (← formula 0 fuel)
    else
      match ← peek with
      | some '(' =>
        skip 1
        amongCommands do
          let body ← optionalCommands fuel
          skipLines ((← get).rest.length + 1)
          expectChar ')'
          return .substitution quoted body
      | some '\x7b' =>
        skip 1
        let sized := isSized (← get).rest
        if sized then skip 1
        let name ← parameterName
        let form ← parameterForm sized (!name.isEmpty)
        let word ← if quoted && !form.isPattern then quotedWord false fuel else pieces (· = '\x7d') fuel
        if (← next).isNone then failInBraces (quoted && !form.isPattern)
        return .parameter quoted name form word
      | some c =>
        if c.isDigit then
          skip 1
          return .parameter quoted [c] .value []
        else if isNameChar c then
          return .parameter quoted (← takeRun isNameChar) .value []
        else if isSpecial c then
          skip 1
          return .parameter quoted [c] .value []
        else return .literal quoted ['$']
      | none => return .literal quoted ['$']

/-- Takes a word that has to be there. -/
def target : (fuel : Nat) → Reader Word
  | 0 => fail "too deep"
  | fuel + 1 => do
    match ← peek with
    | none => unexpected
    | some c => if isMeta c then unexpected else pieces isMeta fuel

/-- Takes a redirection, if one comes next. One digit in front of it is the number of its descriptor. -/
def redirection? : (fuel : Nat) → Reader (Option Redirection)
  | 0 => fail "too deep"
  | fuel + 1 => do
    skipBlanks
    let rest := (← get).rest
    let digits := (rest.take 1).takeWhile Char.isDigit
    let operator := rest.drop digits.length
    let number (usual : Nat) : Nat := if digits.isEmpty then usual else Nat.ofDigitChars 10 digits 0
    let operand (length : Nat) : Reader Word := do
      skip (digits.length + length)
      skipBlanks
      target fuel
    match operator with
    | '<' :: '<' :: more =>
      let strip := more.head? = some '-'
      let delimiter ← operand (if strip then 3 else 2)
      let isPlain := hasQuotes delimiter
      let (body, line, final) ← hereDocument (plainText delimiter) strip !isPlain
      if isPlain then return some (.text (number 0) [.literal true body])
      else return some (.text (number 0) (← apart body line final true (quotedPieces false fuel)))
    | '<' :: '&' :: _ => return some (.duplicate (number 0) (← operand 2))
    | '<' :: '>' :: _ => return some (.file (number 0) .exchange (← operand 2))
    | '<' :: _ => return some (.file (number 0) .input (← operand 1))
    | '>' :: '&' :: _ => return some (.duplicate (number 1) (← operand 2))
    | '>' :: '>' :: _ => return some (.file (number 1) .extension (← operand 2))
    | '>' :: '|' :: _ => return some (.file (number 1) .overwrite (← operand 2))
    | '>' :: _ => return some (.file (number 1) .output (← operand 1))
    | _ => return none

/-- Takes all redirections that come next. -/
def redirections : (fuel : Nat) → Reader (List Redirection)
  | 0 => fail "too deep"
  | fuel + 1 => do
    match ← redirection? fuel with
    | none => return []
    | some r => return r :: (← redirections fuel)

/-- Takes the words of a simple command. Assignments come before the first word. -/
def simpleParts (inAssignments : Bool) :
    (fuel : Nat) → Reader (List (Bytes × Word) × List Word × List Redirection)
  | 0 => fail "too deep"
  | fuel + 1 => do
    let before := (← get).rest.length
    skipBlanks
    if inAssignments || (← isBehindAlias before) then
      if ← replaceAlias then return ← simpleParts inAssignments fuel
    match ← redirection? fuel with
    | some r =>
      let (assignments, words, rs) ← simpleParts inAssignments fuel
      return (assignments, words, r :: rs)
    | none =>
      match ← peek with
      | none => return ([], [], [])
      | some c =>
        if isMeta c then return ([], [], [])
        else
          let word ← pieces isMeta fuel
          match if inAssignments then assignmentName? word else none with
          | some a =>
            let (assignments, words, rs) ← simpleParts true fuel
            return (a :: assignments, words, rs)
          | none =>
            let (_, words, rs) ← simpleParts false fuel
            return ([], word :: words, rs)

/-- Takes the redirections behind a compound command that starts on a line. -/
def withRedirections (line : Nat) (body : Command) : (fuel : Nat) → Reader Command
  | 0 => fail "too deep"
  | fuel + 1 => do
    match ← redirections fuel with
    | [] => return body
    | rs => return .redirected line body rs

/-- Takes the rest of a simple command, or of a function whose name comes first. -/
def simpleOrFunction (line : Nat) : (fuel : Nat) → Reader Command
  | 0 => fail "too deep"
  | fuel + 1 => do
    let (assignments, ws, rs) ← simpleParts true fuel
    if (← peek) ≠ some '(' then
      if assignments.isEmpty && ws.isEmpty && rs.isEmpty then unexpected
      return .simple line assignments ws rs
    match assignments, ws, rs with
    | [], [name], [] =>
      skip 1
      skipBlanks
      expectChar ')'
      match name with
      | [.literal false text] =>
        if !isFunctionName text then fail "Bad function name"
        skipLines ((← get).rest.length + 1)
        return .function line text (← command fuel)
      | _ => fail "Bad function name"
    | _, _, _ => unexpected

/-- Takes the words after the name of a loop variable. -/
def words : (fuel : Nat) → Reader (List Word)
  | 0 => fail "too deep"
  | fuel + 1 => do
    skipBlanks
    match ← peek with
    | none => return []
    | some c =>
      if isMeta c then return []
      else
        let word ← pieces isMeta fuel
        return word :: (← words fuel)

/-- Takes the rest of a conditional, after its first word. -/
def conditional : (fuel : Nat) → Reader Command
  | 0 => fail "too deep"
  | fuel + 1 => do
    let condition ← commands fuel
    expectWord "then"
    let yes ← commands fuel
    if ← atKeyword "elif" then
      skip 4
      return .choice condition yes (← conditional fuel)
    else if ← atKeyword "else" then
      skip 4
      let no ← commands fuel
      expectWord "fi"
      return .choice condition yes no
    else
      expectWord "fi"
      return .choice condition yes (.sequence [])

/-- Takes the patterns of an arm, with the parenthesis after them. -/
def patterns : (fuel : Nat) → Reader (List Word)
  | 0 => fail "too deep"
  | fuel + 1 => do
    skipBlanks
    let pattern ← pieces isMeta fuel
    if pattern.isEmpty then
      if (← peek).isNone then unexpectedBefore (some ")") else unexpected
    skipBlanks
    if (← peek) = some '|' then
      skip 1
      return pattern :: (← patterns fuel)
    else
      expectChar ')'
      return [pattern]

/-- Takes the arms of a selection, with its last word. -/
def arms : (fuel : Nat) → Reader (List (List Word × Command))
  | 0 => fail "too deep"
  | fuel + 1 => do
    skipLines ((← get).rest.length + 1)
    if ← atKeyword "esac" then
      skip 4
      return []
    else
      if (← peek) = some '(' then skip 1
      let ps ← patterns fuel
      let body ← optionalCommands fuel
      skipLines ((← get).rest.length + 1)
      if ← ahead ";;" then
        skip 2
        return (ps, body) :: (← arms fuel)
      else if ← atKeyword "esac" then
        skip 4
        return [(ps, body)]
      else unexpectedBefore (some ";;")

/-- Takes a command that is not a pipeline. -/
def command : (fuel : Nat) → Reader Command
  | 0 => fail "too deep"
  | fuel + 1 => do
    skipBlanks
    let line := (← get).line
    if (← peek) = some '(' then
      skip 1
      let body ← commands fuel
      skipLines ((← get).rest.length + 1)
      expectChar ')'
      return .subshell line body (← redirections fuel)
    else if ← atKeyword "\x7b" then
      skip 1
      let body ← commands fuel
      expectWord "\x7d"
      withRedirections line body fuel
    else if ← atKeyword "if" then
      skip 2
      withRedirections line (← conditional fuel) fuel
    else if (← atKeyword "while") || (← atKeyword "until") then
      let whileSuccess ← atKeyword "while"
      skip 5
      let condition ← commands fuel
      expectWord "do"
      let body ← commands fuel
      expectWord "done"
      withRedirections line (.loop whileSuccess condition body) fuel
    else if ← atKeyword "for" then
      skip 3
      skipBlanks
      let name ← takeRun isNameChar
      if name.isEmpty || name.head?.any Char.isDigit then fail "Bad for loop variable"
      skipLines ((← get).rest.length + 1)
      let items ← if ← atKeyword "in" then do
          skip 2
          pure (some (← words fuel))
        else pure none
      skipBlanks
      if (← peek) = some ';' then skip 1
      skipLines ((← get).rest.length + 1)
      expectWord "do"
      let body ← commands fuel
      expectWord "done"
      withRedirections line (.forEach line name items body) fuel
    else if ← atKeyword "case" then
      skip 4
      skipBlanks
      let subject ← pieces isMeta fuel
      skipLines ((← get).rest.length + 1)
      expectWord "in"
      let body ← arms fuel
      withRedirections line (.select line subject body) fuel
    else if ((← bareWord?).map fun w => reservedWords.contains (String.ofList w)) = some true then
      unexpected
    else if ← replaceAlias then command fuel
    else simpleOrFunction line fuel

/-- Takes the stages of a pipeline. -/
def stages : (fuel : Nat) → Reader (List Command)
  | 0 => fail "too deep"
  | fuel + 1 => do
    let first ← command fuel
    skipBlanks
    if (← ahead "|") && !(← ahead "||") then
      skip 1
      skipLines ((← get).rest.length + 1)
      return first :: (← stages fuel)
    else return [first]

/-- Takes a pipeline. -/
def pipeline : (fuel : Nat) → Reader Command
  | 0 => fail "too deep"
  | fuel + 1 => do
    let negated ← atKeyword "!"
    if negated then skip 1
    let body : Command ← match ← stages fuel with
      | [only] => pure only
      | all => pure (.pipeline all)
    return if negated then .negation body else body

/-- Takes what follows the first pipeline of a chain. -/
def chainFrom (first : Command) : (fuel : Nat) → Reader Command
  | 0 => fail "too deep"
  | fuel + 1 => do
    skipBlanks
    if ← ahead "&&" then
      skip 2
      skipLines ((← get).rest.length + 1)
      let second ← pipeline fuel
      chainFrom (.both first second) fuel
    else if ← ahead "||" then
      skip 2
      skipLines ((← get).rest.length + 1)
      let second ← pipeline fuel
      chainFrom (.either first second) fuel
    else return first

/-- Takes a chain of pipelines with the separator after it; gives whether there was one. -/
def chain : (fuel : Nat) → Reader (Command × Bool)
  | 0 => fail "too deep"
  | fuel + 1 => do
    skipBlanks
    let line := (← get).line
    let first ← pipeline fuel
    let all ← chainFrom first fuel
    skipBlanks
    match ← peek with
    | some '&' =>
      skip 1
      return (.background line all, true)
    | some ';' =>
      if ← ahead ";;" then return (all, false)
      skip 1
      return (all, true)
    | some '\n' => return (all, true)
    | _ => return (all, false)

/-- Takes the commands up to the end of a line. -/
def lineCommands : (fuel : Nat) → Reader (List Command)
  | 0 => fail "too deep"
  | fuel + 1 => do
    let (first, separated) ← chain fuel
    skipBlanks
    match ← peek with
    | none => return [first]
    | some '\n' => return [first]
    | some _ => if separated then return first :: (← lineCommands fuel) else unexpected

/-- Takes a list of commands up to whatever ends it. -/
def commandList : (fuel : Nat) → Reader (List Command)
  | 0 => fail "too deep"
  | fuel + 1 => do
    skipLines ((← get).rest.length + 1)
    if ← atEnd then return []
    else
      let (first, separated) ← chain fuel
      if separated then return first :: (← commandList fuel) else return [first]

/-- Takes a list of commands as one command. -/
def optionalCommands : (fuel : Nat) → Reader Command
  | 0 => fail "too deep"
  | fuel + 1 => do
    return .sequence (← commandList fuel)

/-- Takes a list of at least one command as one command. -/
def commands : (fuel : Nat) → Reader Command
  | 0 => fail "too deep"
  | fuel + 1 => do
    match ← commandList fuel with
    | [] => if (← peek).isNone then return .sequence [] else unexpected
    | all => return .sequence all

end

/-- More than the depth of any derivation of a script of some length. -/
def fuelFor (length : Nat) : Nat := 8 * length + 64

end Reader

/-- What comes next in a script. -/
inductive Reading where
  | finished
  | mistaken (mistake : Mistake)
  /-- The commands on a line, and the place behind it. -/
  | commands (all : List Command) (after : Cursor)

namespace Script

/-- The start of a script, which may use some aliases. -/
def start (text : Bytes) : Cursor := ⟨text, 1, 0, 0, 0, false, [], []⟩

/-- Reads a text as if it stood in double quotes. -/
def text? (text : Bytes) : Option Word :=
  ((Reader.quotedPieces false (Reader.fuelFor text.length)).run { start text with isHere := true }).toOption.map Prod.fst

/-- Reads the next line of a script that holds commands. -/
def next (aliases : List (Bytes × Bytes)) (cursor : Cursor) : Reading :=
  let size := Reader.fuelFor cursor.rest.length
  match (Reader.skipLines size).run { cursor with aliases } with
  | .error e => .mistaken e
  | .ok (_, start) =>
    if start.rest.isEmpty then .finished
    else
      let size := size + Reader.fuelFor (aliases.foldl (fun n a => n + a.2.length) 0)
      match (Reader.lineCommands size).run start with
      | .error e => .mistaken e
      | .ok (line, after) => .commands line after

end Script

end Stopwatch.Shell
