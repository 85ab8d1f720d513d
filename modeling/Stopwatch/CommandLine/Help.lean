import Stopwatch.CommandLine.Request

/-!
# Help

What is said about a level of the command line when help is asked for: what it is for, how it is used, its
commands, its words and its options. In short, what is said about an option stands behind it, or below if
there is not enough room; at length it stands below in any case.

- `Help.ofLevel`: the help on a level;
- `Help.text`: the help on the level with a name.
-/

namespace Stopwatch.CommandLine.Help

/-- The width for which help is laid out. -/
def lineWidth : Nat := 100

def blanks (n : Nat) : String := String.ofList (List.replicate n ' ')

/-- What stands in front of a text below its option. -/
def indent : String := blanks 10

/-! ### Order -/

/-- The place of an option with a letter among others of the same rank: by its letter, small before
large. -/
def letterKey (c : Char) : String := String.ofList [c.toLower, if c.isLower then '0' else '1']

/-- The place of an option among others of the same rank: by its letter, or by its name. -/
def key (s : Switch) : List UInt8 := ((s.letter.map letterKey).getD s.name).toUTF8.toList

/-- An option with its rank. -/
structure Ranked where
  rank : Nat
  switch : Switch

/-- Whether an option is not shown behind another one. -/
def Ranked.isBefore (a b : Ranked) : Bool :=
  (Ord.compare a.rank b.rank).then (Ord.compare (key a.switch) (key b.switch)) != .gt

/-- Options ranked by their order. -/
def ranked (switches : List Switch) : List Ranked := switches.zipIdx.map fun (s, i) => ⟨i, s⟩

/-- The options of a level in the order in which they are shown. Its own options and those of the level
above are ranked on their own; help and version come last. -/
def inOrder (level : Level) : List Switch :=
  let own := ranked (level.switches.take level.ownSwitches)
  let above := ranked (level.switches.drop level.ownSwitches)
  let last := (level.allSwitches.drop level.switches.length).map (Ranked.mk level.switches.length)
  ((own ++ above ++ last).mergeSort Ranked.isBefore).map Ranked.switch

/-! ### Options -/

/-- Whether more can be said about the choices of an option than their names. -/
def explains (s : Switch) : Bool := s.choices.any fun c => c.2 ≠ ""

/-- What holds for the value of an option: its variable with the value that it has, the value that holds
without any other, and the choices. -/
def facts (environment : String → Option String) (isLong : Bool) (s : Switch) : List String :=
  (s.fallback.map fun name => "[env: " ++ name ++ "=" ++ (environment name).getD "" ++ "]").toList ++
    (s.standard?.map fun value => "[default: " ++ value ++ "]").toList ++
    if s.choices.isEmpty || (isLong && explains s) then []
    else ["[possible values: " ++ ", ".intercalate (s.choices.map Prod.fst) ++ "]"]

/-- What is said about an option. -/
def about (isLong : Bool) (s : Switch) : String :=
  if s.name = helpSwitch.name then
    s.about ++ if isLong then " (see a summary with '-h')" else " (see more with '--help')"
  else s.about

/-- The choices of an option with what is said about them, one below the other. -/
def choiceTable (choices : List (String × String)) : String :=
  let longest := choices.foldl (fun n c => max n c.1.length) 0
  "Possible values:" ++ String.join (choices.map fun (name, about) =>
    "\n" ++ indent ++ "- " ++ name ++ ":" ++ blanks (1 + longest - name.length) ++ about)

/-- What is said about an option at length, in paragraphs. The line above the facts is blank but not empty. -/
def paragraphs (environment : String → Option String) (s : Switch) : String :=
  let table := if explains s then choiceTable s.choices else ""
  let first := ("\n\n" ++ indent).intercalate ([about true s, table].filter (· ≠ ""))
  let facts := ("\n" ++ indent).intercalate (facts environment true s)
  ("\n" ++ indent ++ "\n" ++ indent).intercalate ([first, facts].filter (· ≠ ""))

/-- What is said about an option in short, on one line. -/
def remark (environment : String → Option String) (s : Switch) : String :=
  " ".intercalate ((about false s :: facts environment false s).filter (· ≠ ""))

/-- An option as it is shown, with its letter. -/
def shown (s : Switch) : String :=
  "  " ++ (s.letter.elim "    " fun c => String.ofList ['-', c, ',', ' ']) ++ s.shown

/-- The width of the longest option. -/
def widest (switches : List Switch) : Nat := switches.foldl (fun n s => max n s.shown.length) 2

/-- Whether what is said about options has to stand below them: they take up much of a line, and for one of
them the rest of the line is not enough. -/
def isCrowded (environment : String → Option String) (switches : List Switch) : Bool :=
  let taken := widest switches + 12
  decide (lineWidth * 2 < taken * 5) && decide (taken ≤ lineWidth) && switches.any fun s =>
    let facts := " ".intercalate (facts environment false s)
    decide (lineWidth - taken < (about false s).length + facts.length)

/-- The lines on the options of a level. -/
def optionLines (environment : String → Option String) (isLong : Bool) (switches : List Switch) : String :=
  if isLong then
    "\n\n".intercalate (switches.map fun s => shown s ++ "\n" ++ indent ++ paragraphs environment s)
  else if isCrowded environment switches then
    "\n".intercalate (switches.map fun s => shown s ++ "\n" ++ indent ++ remark environment s)
  else
    "\n".intercalate (switches.map fun s =>
      shown s ++ blanks (widest switches + 2 - s.shown.length) ++ remark environment s)

/-! ### Levels -/

/-- The lines on the commands of a level. -/
def commandLines (commands : List (String × String × List String)) : String :=
  let longest := commands.foldl (fun n c => max n c.1.length) 2
  "\n".intercalate (commands.map fun (name, about, _) =>
    "  " ++ name ++ blanks (longest + 2 - name.length) ++ about)

/-- The lines on the words of a level, about which there is nothing to say. -/
def wordLines (isLong : Bool) (words : List String) : String :=
  "\n".intercalate (words.map fun w => "  " ++ w ++ if isLong then "\n" ++ indent else "  ")

/-- Lines with a heading; without lines there is none. -/
def titled? (heading lines : String) : Option String :=
  if lines = "" then none else some (heading ++ ":\n" ++ lines)

/-- The help on a level. -/
def ofLevel (environment : String → Option String) (isLong : Bool) (level : Level) : String :=
  "\n\n".intercalate (
    [level.about, "Usage: " ++ level.generalUsage] ++
      [titled? "Commands" (commandLines level.commands),
        titled? "Arguments" (wordLines isLong level.shownWords),
        titled? "Options" (optionLines environment isLong (inOrder level))].filterMap id) ++ "\n"

/-- The help on the command for help. -/
def onHelp : String :=
  CommandName.about .help ++ "\n\nUsage: " ++ helpUsage ++
    "\n\nArguments:\n  [COMMAND]...  Print help for the subcommand(s)\n"

/-- The help on the level with a name. -/
def text (environment : String → Option String) (name : String) (isLong : Bool) : String :=
  if name = CommandName.help.level.name then onHelp
  else
    let levels := topLevel :: CommandName.all.map CommandName.level
    ((levels.find? (·.name = name)).getD topLevel |> ofLevel environment isLong)

end Stopwatch.CommandLine.Help
