import Stopwatch.Proofs.Text.Lines
import Stopwatch.Suite

/-!
# Layouts of suites

A suite can be laid out in many ways: blank lines and comments may stand anywhere, blanks around
what a line holds mean nothing, and a line may end in two ways. Every text is a layout of exactly
one list of entries, which is what is read from it.

- `Entry`, `Holds`: what a line can hold;
- `Lists`: the layouts of a list of entries;
- `lists_iff`: every text is a layout of what is read from it, and of nothing else;
- `parse_layout`: what a suite is, in any layout.
-/

namespace Stopwatch.Suite

open Stopwatch.Text

/-! ### Layouts -/

/-- A text that can stand on a line as an entry. -/
structure Entry (e : List Char) : Prop where
  trimmed : Trimmed e
  oneLine : '\n' ∉ e
  noComment : e.head? ≠ some '#'

/-- What a line holds: nothing, if it is blank or a comment, or one entry. -/
inductive Holds : List String → List Char → Prop where
  | blank {line : List Char} (h : ∀ c ∈ line, isBlank c = true) : Holds [] line
  | comment {before : List Char} (h : ∀ c ∈ before, isBlank c = true) (rest : List Char) :
    Holds [] (before ++ '#' :: rest)
  | entry {before after : List Char} {e : String} (he : Entry e.toList)
    (hbefore : ∀ c ∈ before, isBlank c = true) (hafter : ∀ c ∈ after, isBlank c = true) :
    Holds [e] (before ++ e.toList ++ after)

/-- The layouts of a list of entries, line by line. A line ends with a line feed that may have a
carriage return in front of it; the last line needs no ending. -/
inductive Lists : List String → List Char → Prop where
  | last {held : List String} {line : List Char} (hline : '\n' ∉ line) (hheld : Holds held line) :
    Lists held line
  | feed {held entries : List String} {line rest : List Char} (hline : '\n' ∉ line)
    (hheld : Holds held line) (hrest : Lists entries rest) :
    Lists (held ++ entries) (line ++ '\n' :: rest)
  | returnFeed {held entries : List String} {line rest : List Char} (hline : '\n' ∉ line)
    (hheld : Holds held line) (hrest : Lists entries rest) :
    Lists (held ++ entries) (line ++ '\r' :: '\n' :: rest)

/-! ### Lines -/

/-- Whether a trimmed line means something. -/
def means (line : List Char) : Bool := !line.isEmpty && line.head? != some '#'

/-- What is read from a line. -/
def heldBy (line : List Char) : List String :=
  ([trimChars line].filter means).map String.ofList

theorem heldBy_of_means {line : List Char} (h : means (trimChars line) = true) :
    heldBy line = [String.ofList (trimChars line)] := by
  rw [heldBy, List.filter_cons_of_pos h]
  rfl

theorem heldBy_of_not_means {line : List Char} (h : means (trimChars line) = false) :
    heldBy line = [] := by
  rw [heldBy, List.filter_cons_of_neg (by rw [h]; exact Bool.false_ne_true)]
  rfl

theorem means_iff {line : List Char} :
    means line = true ↔ line ≠ [] ∧ line.head? ≠ some '#' := by
  unfold means
  rw [Bool.and_eq_true, Bool.not_eq_true', List.isEmpty_eq_false_iff, bne_iff_ne]

theorem Entry.means {e : List Char} (h : Entry e) : means e = true :=
  means_iff.mpr ⟨h.trimmed.ne_nil, h.noComment⟩

/-- A number sign that only blanks stand before is seen once the line is trimmed. -/
theorem head?_trimChars_comment {before : List Char} (h : ∀ c ∈ before, isBlank c = true)
    (rest : List Char) : (trimChars (before ++ '#' :: rest)).head? = some '#' := by
  have hsign : isBlank '#' = false := by decide
  have hstart : (before ++ '#' :: rest).dropWhile isBlank = '#' :: rest := by
    rw [dropWhile_append_of_head before hsign, List.dropWhile_eq_nil_iff.mpr h, List.nil_append]
  rw [trimChars_eq, hstart]
  have hne : ('#' :: rest).rdropWhile isBlank ≠ [] := fun hnil => by
    rw [List.rdropWhile_eq_nil_iff.mp hnil '#' List.mem_cons_self] at hsign
    cases hsign
  rw [← List.head_eq_iff_head?_eq_some hne, (List.rdropWhile_prefix isBlank _).head hne,
    List.head_cons]

theorem Holds.eq_heldBy {held : List String} {line : List Char} (h : Holds held line) :
    held = heldBy line := by
  cases h with
  | blank hblank =>
    rw [heldBy_of_not_means]
    rw [trimChars_of_blank hblank]
    rfl
  | comment hbefore rest =>
    rw [heldBy_of_not_means]
    rw [Bool.eq_false_iff]
    exact fun hmeans => (means_iff.mp hmeans).2 (head?_trimChars_comment hbefore rest)
  | @entry before after e he hbefore hafter =>
    have htrim : trimChars (before ++ e.toList ++ after) = e.toList := by
      rw [trimChars_append before he.trimmed hafter, List.dropWhile_eq_nil_iff.mpr hbefore,
        List.nil_append]
    rw [heldBy_of_means (by rw [htrim]; exact he.means), htrim, String.ofList_toList]

/-- A line holds what is read from it. -/
theorem holds_heldBy {line : List Char} (hline : '\n' ∉ line) : Holds (heldBy line) line := by
  obtain ⟨before, after, hbefore, hafter, hsplit⟩ := eq_append_trimChars line
  cases hmeans : means (trimChars line) with
  | true =>
    obtain ⟨hne, hsign⟩ := means_iff.mp hmeans
    have honeLine : '\n' ∉ trimChars line := fun hmem => hline <| by
      rw [hsplit]
      exact List.mem_append_left after (List.mem_append_right before hmem)
    have hentry : Entry (String.ofList (trimChars line)).toList := by
      rw [String.toList_ofList]
      exact ⟨trimmed_trimChars hne, honeLine, hsign⟩
    rw [heldBy_of_means hmeans]
    have hholds := Holds.entry hentry hbefore hafter
    rwa [String.toList_ofList, ← hsplit] at hholds
  | false =>
    rw [heldBy_of_not_means hmeans]
    cases htrim : trimChars line with
    | nil =>
      rw [htrim, List.append_nil] at hsplit
      exact .blank (hsplit ▸ List.forall_mem_append.mpr ⟨hbefore, hafter⟩)
    | cons c rest =>
      -- something is left of the line and means nothing, so it is a comment
      have hc : c = '#' := by
        by_contra hne
        have hkept : means (trimChars line) = true := by
          rw [htrim]
          exact means_iff.mpr ⟨List.cons_ne_nil c rest, fun hhead => hne (Option.some.inj hhead)⟩
        rw [hmeans] at hkept
        cases hkept
      rw [hsplit, htrim, hc, List.append_assoc, List.cons_append]
      exact .comment hbefore _

theorem heldBy_dropReturn (line : List Char) : heldBy (dropReturn line) = heldBy line := by
  rw [heldBy, heldBy, trimChars_dropReturn]

/-! ### Texts -/

/-- What is read from a text. -/
def entriesOf (text : List Char) : List String := (lines text).flatMap heldBy

theorem map_significantLines (text : List Char) :
    (significantLines text).map String.ofList = entriesOf text := by
  unfold significantLines entriesOf
  induction lines text with
  | nil => rfl
  | cons line rest ih =>
    rw [List.flatMap_cons, ← ih, List.map_cons, heldBy, ← List.map_append]
    exact congrArg (List.map String.ofList)
      (List.filter_append [trimChars line] (rest.map trimChars))

theorem entriesOf_of_not_mem {line : List Char} (h : '\n' ∉ line) :
    entriesOf line = heldBy line := by
  rw [entriesOf, lines_of_not_mem h]
  cases line with
  | nil => rfl
  | cons c line => exact List.append_nil _

theorem entriesOf_cons {line : List Char} (h : '\n' ∉ line) (rest : List Char) :
    entriesOf (line ++ '\n' :: rest) = heldBy line ++ entriesOf rest := by
  rw [entriesOf, lines_cons h, List.flatMap_cons, heldBy_dropReturn]
  rfl

theorem Lists.eq_entriesOf {entries : List String} {text : List Char} (h : Lists entries text) :
    entries = entriesOf text := by
  induction h with
  | last hline hheld => rw [entriesOf_of_not_mem hline, hheld.eq_heldBy]
  | feed hline hheld _ ih => rw [entriesOf_cons hline, hheld.eq_heldBy, ih]
  | @returnFeed held entries line rest hline hheld _ ih =>
    -- the carriage return is the end of the line, and is dropped there
    have hreturned : '\n' ∉ line ++ ['\r'] := by simpa using hline
    have hheldBy : heldBy (line ++ ['\r']) = heldBy line := by
      rw [← heldBy_dropReturn, dropReturn, List.getLast?_concat, if_pos rfl, List.dropLast_concat]
    rw [List.append_cons, entriesOf_cons hreturned, hheldBy, hheld.eq_heldBy, ih]

/-- Every text lists what is read from it: the lines are taken off one by one. -/
theorem lists_entriesOf (text : List Char) : Lists (entriesOf text) text := by
  by_cases hfeed : '\n' ∈ text
  · obtain ⟨line, rest, htext, hline⟩ := List.eq_append_cons_of_mem hfeed
    have hshorter : rest.length < text.length := by
      rw [htext, List.length_append, List.length_cons]
      omega
    rw [htext, entriesOf_cons hline]
    exact .feed hline (holds_heldBy hline) (lists_entriesOf rest)
  · rw [entriesOf_of_not_mem hfeed]
    exact .last hfeed (holds_heldBy hfeed)
termination_by text.length
decreasing_by exact hshorter

/-- A text is a layout of what is read from it, and of nothing else. -/
theorem lists_iff {entries : List String} {text : List Char} :
    Lists entries text ↔ entries = entriesOf text :=
  ⟨Lists.eq_entriesOf, fun h => h ▸ lists_entriesOf text⟩

/-! ### Suites -/

/-- The file that an entry names: an absolute path is one, and a relative path starts at the base. -/
def fileOf (base entry : String) : String :=
  if Path.isAbsolute entry then entry else Path.join base entry

/-- The suite of some entries, the first of which is its name. -/
def ofEntries (base : String) : List String → Except Fault Suite
  | [] => .error (.emptySuite "")
  | [name] => .error (.emptySuite name)
  | name :: files => .ok ⟨name, files.map (fileOf base)⟩

theorem join_eq_fileOf (base entry : String) : Path.join base entry = fileOf base entry := by
  unfold fileOf Path.join
  split <;> rfl

theorem parse_eq (text base : String) : parse text base = ofEntries base (entriesOf text.toList) := by
  have hjoin : Path.join base = fileOf base := funext (join_eq_fileOf base)
  unfold parse
  rw [map_significantLines, hjoin]
  rfl

/-- **A suite has many layouts**: whatever stands around its entries, a text that lists a name and
files is read as a suite of that name with these files. Every other text lists nothing or a name
alone, and is refused as an empty suite of that name. So no suite is without files. -/
theorem parse_layout (text base : String) :
    (∀ name files, files ≠ [] → Lists (name :: files) text.toList →
      parse text base = .ok ⟨name, files.map fun f =>
        if Path.isAbsolute f then f else Path.join base f⟩) ∧
    ((∀ name files, files ≠ [] → ¬Lists (name :: files) text.toList) →
      Lists [] text.toList ∧ parse text base = .error (.emptySuite "") ∨
        ∃ name, Lists [name] text.toList ∧ parse text base = .error (.emptySuite name)) ∧
    ∀ suite, parse text base = .ok suite → suite.files ≠ [] := by
  rw [parse_eq]
  refine ⟨fun name files hfiles hlists => ?_, fun hother => ?_, fun suite hsuite => ?_⟩
  · obtain ⟨file, files, rfl⟩ := List.exists_cons_of_ne_nil hfiles
    rw [← hlists.eq_entriesOf]
    rfl
  · have hlists := lists_entriesOf text.toList
    cases hentries : entriesOf text.toList with
    | nil => exact .inl ⟨hentries ▸ hlists, rfl⟩
    | cons name files =>
      rw [hentries] at hlists
      cases files with
      | nil => exact .inr ⟨name, hlists, rfl⟩
      | cons file files => exact absurd hlists (hother name _ (List.cons_ne_nil file files))
  · cases hentries : entriesOf text.toList with
    | nil => rw [hentries] at hsuite; cases hsuite
    | cons name files =>
      rw [hentries] at hsuite
      cases files with
      | nil => cases hsuite
      | cons file files =>
        obtain rfl := Except.ok.inj hsuite
        exact List.cons_ne_nil _ _

/-- A suite with comments, blank lines and both endings of lines, and a text with a name alone. -/
theorem parse_layout_commented :
    parse "\n# header\n  quick\u00a0\r\n\r\nbasic.js\n \t# skip\r\n\t/abs/coll.js\r" "/suites" =
        .ok ⟨"quick", ["/suites/basic.js", "/abs/coll.js"]⟩ ∧
      parse "# c\r\nlonely\n" "/suites" = .error (.emptySuite "lonely") := by
  have hlists : Lists ["quick", "basic.js", "/abs/coll.js"]
      "\n# header\n  quick\u00a0\r\n\r\nbasic.js\n \t# skip\r\n\t/abs/coll.js\r".toList :=
    lists_iff.mpr (by decide +kernel)
  have halone : Lists ["lonely"] "# c\r\nlonely\n".toList := lists_iff.mpr (by decide +kernel)
  refine ⟨(parse_layout _ "/suites").1 "quick" _ (by decide) hlists, ?_⟩
  obtain ⟨hnone, -⟩ | ⟨name, hname, hparse⟩ := (parse_layout "# c\r\nlonely\n" "/suites").2.1
    fun name files hfiles hlists => by
      cases (lists_iff.mp hlists).trans (lists_iff.mp halone).symm
      exact hfiles rfl
  · cases (lists_iff.mp hnone).trans (lists_iff.mp halone).symm
  · cases (lists_iff.mp hname).trans (lists_iff.mp halone).symm
    exact hparse

end Stopwatch.Suite
