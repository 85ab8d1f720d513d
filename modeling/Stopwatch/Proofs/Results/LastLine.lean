import Stopwatch.Proofs.Json.Alone
import Stopwatch.Proofs.Results.Contents
import Stopwatch.Proofs.Text.Lines
import Stopwatch.Results.Reported

/-!
# Results on the last line of an output

A program that prints its results as its last line may print anything before it: the results
are recovered. The output is first tried as a whole, which gives nothing else, because a
document that begins on an earlier line never ends with the results. Then the lines are
tried from the last one on, which is not broken up, because compact text has no line feed.

- `Json.Content.Intact`: a value that is read as it was;
- `Printed`: the texts of some results;
- `Value.newLine_notMem_compactChars`: compact text is one line;
- `groups?_of_container`: how an output is read if its last line is a container;
- `groups?_of_printed`: results on the last line are recovered.
-/

namespace Stopwatch

open Json

/-- A value that is read as it was: all its floats are finite and read back. -/
structure Json.Content.Intact {α : Type} (s : Content α) (a : α) : Prop extends s.Written a where
  optional_finite : AllFinite (s.optional a)

theorem Json.Codec.read?_print {α : Type} {c : Codec α} {s : Content α} (hc : c.Faithful s)
    {a : α} (ha : s.Intact a) : c.read? (c.print a) = some a := by
  rw [Codec.read?_texts hc a _ List.mem_cons_self, hc.reads a ha.toWritten,
    hc.kept_eq a ha.optional_finite]

/-! ### Compact text -/

namespace Json.Value

theorem readable_itemTokens {items : List Value}
    (h : ∀ v ∈ items, ∀ t ∈ v.tokens, t.Readable) : ∀ t ∈ itemTokens items, t.Readable := by
  induction items with
  | nil => simp [itemTokens]
  | cons v rest ih =>
    obtain ⟨hv, hrest⟩ := List.forall_mem_cons.mp h
    cases rest with
    | nil =>
      rw [itemTokens]
      exact hv
    | cons w rest =>
      rw [itemTokens, List.forall_mem_append, List.forall_mem_cons]
      exact ⟨hv, trivial, ih hrest⟩

theorem readable_memberTokens {members : List (Label × Value)}
    (h : ∀ m ∈ members, ∀ t ∈ m.2.tokens, t.Readable) :
    ∀ t ∈ memberTokens members, t.Readable := by
  induction members with
  | nil => simp [memberTokens]
  | cons m rest ih =>
    obtain ⟨s, v⟩ := m
    obtain ⟨hv, hrest⟩ := List.forall_mem_cons.mp h
    cases rest with
    | nil =>
      rw [memberTokens, List.forall_mem_cons, List.forall_mem_cons]
      exact ⟨trivial, trivial, hv⟩
    | cons m rest =>
      rw [memberTokens, List.forall_mem_cons, List.forall_mem_cons, List.forall_mem_append,
        List.forall_mem_cons]
      exact ⟨trivial, trivial, hv, trivial, ih hrest⟩

/-- All tokens of a readable value are read back as written. -/
theorem readable_tokens {v : Value} (h : v.Readable) : ∀ t ∈ v.tokens, t.Readable := by
  induction v using nested_induction with
  | null =>
    rw [tokens, List.forall_mem_singleton]
    trivial
  | bool b =>
    rw [tokens, List.forall_mem_singleton]
    trivial
  | number n =>
    rw [tokens, List.forall_mem_singleton]
    exact readable_number.mp h
  | string s =>
    rw [tokens, List.forall_mem_singleton]
    trivial
  | array items ih =>
    rw [tokens, List.forall_mem_cons, List.forall_mem_append, List.forall_mem_singleton]
    exact ⟨trivial, readable_itemTokens fun v hv => ih v hv (readable_array.mp h v hv), trivial⟩
  | object members ih =>
    rw [tokens, List.forall_mem_cons, List.forall_mem_append, List.forall_mem_singleton]
    exact ⟨trivial, readable_memberTokens fun m hm => ih m hm (readable_object.mp h m hm),
      trivial⟩

theorem newLine_notMem_escapeChar (c : Char) : '\n' ∉ escapeChar c := by
  have hdigit : ∀ d < 16, '\n' ≠ hexDigit d := by decide
  unfold escapeChar
  split_ifs with hquote hbackslash hn hr ht hb hf hcontrol
  · decide
  · decide
  · decide
  · decide
  · decide
  · decide
  · decide
  · simp [hdigit (c.toNat / 16) (by omega), hdigit (c.toNat % 16) (by omega)]
  · simpa using Ne.symm hn

theorem newLine_notMem_labelChars (s : Label) : '\n' ∉ labelChars s := by
  cases s with
  | none =>
    have hchars : labelChars none = ['"', '\\', 'u', 'd', '8', '0', '0', '"'] := by decide
    rw [hchars]
    decide
  | some s =>
    show '\n' ∉ '"' :: (s.toList.flatMap escapeChar ++ ['"'])
    rw [List.mem_cons, List.mem_append, List.mem_singleton, List.mem_flatMap]
    rintro (hquote | ⟨c, _, hc⟩ | hquote)
    · exact absurd hquote (by decide)
    · exact newLine_notMem_escapeChar c hc
    · exact absurd hquote (by decide)

theorem newLine_notMem_chars {t : Token} (h : t.Readable) : '\n' ∉ t.chars := by
  cases t with
  | bool b => cases b <;> decide
  | number n =>
    intro hmem
    exact absurd (unbroken_chars h '\n' hmem) (by decide)
  | string s => exact newLine_notMem_labelChars s
  | _ => decide

/-- Compact text is one line. -/
theorem newLine_notMem_compactChars {v : Value} (h : v.Readable) : '\n' ∉ v.compactChars := by
  intro hmem
  obtain ⟨t, ht, hchar⟩ := List.mem_flatMap.mp hmem
  exact newLine_notMem_chars (readable_tokens h t ht) hchar

/-- The text of a container begins and ends with a bracket. -/
theorem IsContainer.compactChars_eq {v : Value} (h : v.IsContainer) :
    ∃ o inner c, v.compactChars = o :: inner ++ [c] ∧ (o = '[' ∨ o = '\x7b') ∧
      (c = ']' ∨ c = '\x7d') := by
  unfold compactChars
  cases v with
  | array items =>
    rw [tokens, List.flatMap_cons, List.flatMap_append]
    exact ⟨'[', _, ']', rfl, .inl rfl, .inl rfl⟩
  | object members =>
    rw [tokens, List.flatMap_cons, List.flatMap_append]
    exact ⟨'\x7b', _, '\x7d', rfl, .inr rfl, .inr rfl⟩
  | _ => cases h

theorem IsContainer.trimmed {v : Value} (h : v.IsContainer) : Text.Trimmed v.compactChars := by
  obtain ⟨o, inner, c, hchars, ho, hc⟩ := h.compactChars_eq
  refine ⟨⟨o, inner ++ [c], hchars, ?_⟩, ⟨o :: inner, c, hchars, ?_⟩⟩
  · obtain rfl | rfl := ho <;> decide
  · obtain rfl | rfl := hc <;> decide

theorem IsContainer.mayHold {v : Value} (h : v.IsContainer) :
    Reported.mayHold v.compactChars = true := by
  obtain ⟨o, inner, c, hchars, ho, _⟩ := h.compactChars_eq
  rw [hchars]
  obtain rfl | rfl := ho <;> rfl

end Json.Value

/-- A character that is no white space is no gap between tokens either. -/
theorem Json.isGap_of_not_isBlank {c : Char} (h : Text.isBlank c = false) : isGap c = false := by
  by_contra hgap
  rw [Bool.not_eq_false] at hgap
  have hcases : ((c = ' ' ∨ c = '\t') ∨ c = '\n') ∨ c = '\r' := by
    simpa only [isGap, Bool.or_eq_true, decide_eq_true_iff] using hgap
  obtain ((rfl | rfl) | rfl) | rfl := hcases <;> revert h <;> decide

namespace Reported

/-- An output that ends with a line and blanks. -/
def output (before line blanks : String) : String := before ++ "\n" ++ line ++ blanks

/-! ### Reading an output -/

section
variable {v : Value} {blanks : String}

/-- The lines before the last one are blank, or they begin with something else. -/
theorem trimChars_output (hv : v.IsContainer)
    (hblanks : ∀ c ∈ blanks.toList, Text.isBlank c = true) (before : String) :
    Text.trimChars (output before v.compact blanks).toList = v.compactChars ∨
      ∃ c rest, Text.isBlank c = false ∧
        Text.trimChars (output before v.compact blanks).toList =
          c :: rest ++ '\n' :: v.compactChars := by
  have houtput : (output before v.compact blanks).toList =
      (before.toList ++ ['\n']) ++ v.compactChars ++ blanks.toList := by
    simp [output, Value.compact]
  have hnewLine : Text.isBlank '\n' = true := by decide
  rw [houtput, Text.trimChars_append _ hv.trimmed hblanks, List.dropWhile_append]
  cases hdrop : before.toList.dropWhile Text.isBlank with
  | nil =>
    left
    rw [List.isEmpty_nil, if_pos rfl, List.dropWhile_cons_of_pos hnewLine, List.dropWhile_nil,
      List.nil_append]
  | cons c rest =>
    refine .inr ⟨c, rest, ?_, ?_⟩
    · have hhead := List.head?_dropWhile_not Text.isBlank before.toList
      rw [hdrop] at hhead
      simpa using hhead
    · rw [List.isEmpty_cons, if_neg Bool.false_ne_true, List.append_assoc,
        List.singleton_append]

/-- A container is found on the last line; and as a whole the output is read as nothing, or as
the container alone. -/
theorem groups?_of_container (hv : v.IsContainer) (hreadable : v.Readable)
    {groups : List ResultGroup} (hread : ofText? v.compact = some groups)
    (hblanks : ∀ c ∈ blanks.toList, Text.isBlank c = true) (before : String) :
    groups? (output before v.compact blanks) = some groups ∧
      ∀ others, ofText? (Text.trim (output before v.compact blanks)) = some others →
        others = groups := by
  have hne := hv.trimmed.ne_nil
  have hcompact : ofText? (String.ofList v.compactChars) = some groups := hread
  unfold groups? Text.trim
  obtain hwhole | ⟨c, rest, hc, hwhole⟩ := trimChars_output hv hblanks before
  · rw [hwhole]
    refine ⟨?_, fun others h => Option.some.inj (h.symm.trans hcompact)⟩
    dsimp only
    rw [List.isEmpty_eq_false_iff.mpr hne, if_neg Bool.false_ne_true, hcompact, Option.some_or]
  · have hnone : ofText? (String.ofList (c :: rest ++ '\n' :: v.compactChars)) = none := by
      have hparse := Value.parse?_behind hv hreadable (isGap_of_not_isBlank hc) rest
      unfold ofText? Codec.read?
      rw [hparse]
      rfl
    obtain ⟨others, hlines⟩ := Text.lines_append (c :: rest)
      (Value.newLine_notMem_compactChars hreadable) hne
    rw [hwhole, hnone]
    refine ⟨?_, nofun⟩
    -- the last line is the first one that is tried
    dsimp only
    rw [List.cons_append, List.isEmpty_cons, if_neg Bool.false_ne_true, ← List.cons_append,
      hnone, Option.none_or, hlines, List.reverse_append, List.reverse_singleton,
      List.singleton_append, List.map_cons, Text.trimChars_of_trimmed hv.trimmed,
      List.filter_cons_of_pos hv.mayHold, List.findSome?_cons, hcompact]

end

/-! ### Printed results -/

/-- The texts of some results: a list of categories, or a whole document. -/
inductive Printed (groups : List ResultGroup) : String → Prop where
  | list (h : (Content.list ResultGroup.content).Intact groups) :
    Printed groups ((Codec.list ResultGroup.codec).print groups)
  | document (r : Results) (h : Results.content.Intact r) (hgroups : r.groups = groups) :
    Printed groups (Results.codec.print r)

/-- A list of categories is no document written as an array: that begins with a string. -/
theorem decode_list (groups : List ResultGroup) :
    Results.codec.decode ((Codec.list ResultGroup.codec).encode groups) = none := by
  cases groups <;> rfl

/-- Printed results are the compact text of a container, and they are read back. -/
theorem Printed.exists_container {groups : List ResultGroup} {text : String}
    (h : Printed groups text) :
    ∃ v, Value.IsContainer v ∧ v.Readable ∧ text = v.compact ∧ ofText? text = some groups := by
  cases h with
  | list h =>
    have hfaithful := Codec.faithful_list ResultGroup.faithful
    have hreadable := hfaithful.readable groups
    refine ⟨.array _, trivial, hreadable, rfl, ?_⟩
    have hdocument : Results.codec.read? ((Codec.list ResultGroup.codec).print groups) = none := by
      rw [Codec.read?, Codec.print, Value.parse_compact hreadable, Option.bind_some, decode_list]
    rw [ofText?, hdocument, Codec.read?_print hfaithful h]
    rfl
  | document r h hgroups =>
    refine ⟨.object _, trivial, Results.faithful.readable r, rfl, ?_⟩
    rw [ofText?, Codec.read?_print Results.faithful h, Option.map_some, hgroups, Option.some_or]

/-- **Results on the last line are recovered**, whatever the output has before them: the
output as a whole is never read as anything else. -/
theorem groups?_of_printed {groups : List ResultGroup} {text blanks : String}
    (h : Printed groups text) (hblanks : ∀ c ∈ blanks.toList, Text.isBlank c = true)
    (before : String) :
    groups? (output before text blanks) = some groups ∧
      ∀ others, ofText? (Text.trim (output before text blanks)) = some others →
        others = groups := by
  obtain ⟨v, hv, hreadable, rfl, hread⟩ := h.exists_container
  exact groups?_of_container hv hreadable hread hblanks before

/-- One test with one sample. -/
def printedGroups : List ResultGroup :=
  [⟨"A", [⟨"x\n", 1, 0, ⟨1.5, 1.5, 1.5, 1.5, 0.0, 1.5⟩, [1.5], none, none⟩]⟩]

/-- The lines before the results open an array that their bracket seems to close. -/
theorem groups?_of_printed_behind_bracket :
    Printed printedGroups ((Codec.list ResultGroup.codec).print printedGroups) ∧
      groups? (output "[\n[], \"" ((Codec.list ResultGroup.codec).print printedGroups) " \n") =
        some printedGroups := by
  have hprinted : Printed printedGroups ((Codec.list ResultGroup.codec).print printedGroups) :=
    .list ⟨⟨by simp [printedGroups, ResultGroup.content, TestResult.content], by decide,
      by decide +kernel, by decide⟩, by decide⟩
  exact ⟨hprinted, (groups?_of_printed hprinted (by simp [Text.isBlank]) _).1⟩

end Reported

end Stopwatch
