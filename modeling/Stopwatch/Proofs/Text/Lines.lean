import Mathlib.Data.List.DropRight
import Mathlib.Data.List.TakeWhile
import Stopwatch.Text.Blank

/-!
# Trimming, lines and words

A text without blanks at its ends is kept when it is trimmed, together with whatever stands
between it and the first character in front of it that is not blank. If there is no line feed
in it, it is the last line. A line means the same whether it ends with a line feed or with a
carriage return in front of one, because both are blank.

- `trimChars_append`: what is left of a text in front of another one;
- `eq_append_trimChars`: what is trimmed away;
- `lines_append`: the last line; `lines_cons`: the first one;
- `FirstWord`: a text begins with some blanks and a word;
- `head?_words_eq_some_iff`: the first of the words of a text.
-/

namespace Stopwatch.Text

/-! ### Blanks -/

/-- The text begins and ends with characters that are not blank. -/
structure Trimmed (cs : List Char) : Prop where
  head : ∃ c rest, cs = c :: rest ∧ isBlank c = false
  last : ∃ rest c, cs = rest ++ [c] ∧ isBlank c = false

theorem Trimmed.ne_nil {cs : List Char} (h : Trimmed cs) : cs ≠ [] := by
  obtain ⟨c, rest, rfl, _⟩ := h.head
  exact List.cons_ne_nil c rest

theorem dropWhile_append_of_head {p : Char → Bool} (before : List Char) {c : Char}
    (h : p c = false) (rest : List Char) :
    (before ++ c :: rest).dropWhile p = before.dropWhile p ++ c :: rest := by
  have hhead : (c :: rest).dropWhile p = c :: rest :=
    List.dropWhile_cons_of_neg (by rw [h]; exact Bool.false_ne_true)
  rw [List.dropWhile_append, hhead]
  split
  · rename_i hnil
    rw [List.isEmpty_iff.mp hnil, List.nil_append]
  · rfl

/-- Blanks around a text go, and so does what is blank of the text before it. -/
theorem trimChars_append (before : List Char) {cs blanks : List Char} (h : Trimmed cs)
    (hblanks : ∀ c ∈ blanks, isBlank c = true) :
    trimChars (before ++ cs ++ blanks) = before.dropWhile isBlank ++ cs := by
  obtain ⟨first, rest, hfirst, hfirstBlank⟩ := h.head
  obtain ⟨front, last, hlast, hlastBlank⟩ := h.last
  have hstart : (before ++ cs ++ blanks).dropWhile isBlank =
      before.dropWhile isBlank ++ (cs ++ blanks) := by
    rw [List.append_assoc, hfirst, List.cons_append, dropWhile_append_of_head _ hfirstBlank]
  have hblanks' : ∀ c ∈ blanks.reverse, isBlank c = true := fun c hc =>
    hblanks c (List.mem_reverse.mp hc)
  have hend : (before.dropWhile isBlank ++ cs).reverse =
      last :: (before.dropWhile isBlank ++ front).reverse := by
    rw [hlast, ← List.append_assoc, List.reverse_append]
    rfl
  unfold trimChars
  rw [hstart, ← List.append_assoc, List.reverse_append, List.dropWhile_append_of_pos hblanks',
    hend, List.dropWhile_cons_of_neg (by rw [hlastBlank]; exact Bool.false_ne_true), ← hend,
    List.reverse_reverse]

theorem trimChars_of_trimmed {cs : List Char} (h : Trimmed cs) : trimChars cs = cs := by
  have hnone : ∀ c ∈ ([] : List Char), isBlank c = true := nofun
  have htrim := trimChars_append [] h hnone
  rwa [List.append_nil] at htrim

/-- Trimming is dropping from the start and then from the end. -/
theorem trimChars_eq (cs : List Char) : trimChars cs = (cs.dropWhile isBlank).rdropWhile isBlank := rfl

theorem trimChars_of_blank {cs : List Char} (h : ∀ c ∈ cs, isBlank c = true) :
    trimChars cs = [] := by
  rw [trimChars_eq, List.dropWhile_eq_nil_iff.mpr h, List.rdropWhile_nil]

/-- Only blanks are trimmed away. -/
theorem eq_append_trimChars (cs : List Char) :
    ∃ before after, (∀ c ∈ before, isBlank c = true) ∧ (∀ c ∈ after, isBlank c = true) ∧
      cs = before ++ trimChars cs ++ after := by
  refine ⟨cs.takeWhile isBlank, (cs.dropWhile isBlank).rtakeWhile isBlank,
    fun c hc => List.mem_takeWhile_imp hc, fun c hc => List.mem_rtakeWhile_imp hc, ?_⟩
  rw [trimChars_eq, List.append_assoc, List.rdropWhile_append_rtakeWhile,
    List.takeWhile_append_dropWhile]

/-- What is left is empty or begins and ends with characters that are not blank. -/
theorem trimmed_trimChars {cs : List Char} (h : trimChars cs ≠ []) : Trimmed (trimChars cs) := by
  have hprefix : trimChars cs <+: cs.dropWhile isBlank := List.rdropWhile_prefix isBlank _
  have hdrop : cs.dropWhile isBlank ≠ [] := hprefix.ne_nil h
  have hfirst := List.head_dropWhile_not isBlank hdrop
  have hlast := List.rdropWhile_last_not isBlank (cs.dropWhile isBlank) h
  rw [← hprefix.head h] at hfirst
  exact ⟨⟨_, _, (List.cons_head_tail h).symm, hfirst⟩,
    ⟨_, _, (List.dropLast_append_getLast h).symm, Bool.eq_false_iff.mpr hlast⟩⟩

/-! ### Lines -/

theorem linesFrom_of_not_mem {line : List Char} (h : '\n' ∉ line) (current : List Char) :
    linesFrom current line = linesFrom (line.reverse ++ current) [] := by
  induction line generalizing current with
  | nil => rfl
  | cons c line ih =>
    obtain ⟨hc, hline⟩ := List.ne_and_not_mem_of_not_mem_cons h
    have hstep : linesFrom current (c :: line) = linesFrom (c :: current) line := by
      rw [linesFrom, if_neg (Ne.symm hc)]
    rw [hstep, ih hline, List.reverse_cons, List.append_assoc, List.singleton_append]

theorem linesFrom_append (before : List Char) {line : List Char} (h : '\n' ∉ line)
    (hne : line ≠ []) (current : List Char) :
    ∃ others, linesFrom current (before ++ '\n' :: line) = others ++ [line] := by
  induction before generalizing current with
  | nil =>
    have hlast : linesFrom [] line = [line] := by
      rw [linesFrom_of_not_mem h, List.append_nil, linesFrom, if_neg (by simpa using hne),
        List.reverse_reverse]
    refine ⟨[dropReturn current.reverse], ?_⟩
    rw [List.nil_append, linesFrom, if_pos rfl, hlast]
    rfl
  | cons c before ih =>
    rw [List.cons_append, linesFrom]
    split
    · obtain ⟨others, hothers⟩ := ih []
      exact ⟨_ :: others, by rw [hothers, List.cons_append]⟩
    · exact ih (c :: current)

/-- What stands behind the last line feed is the last line. -/
theorem lines_append (before : List Char) {line : List Char} (h : '\n' ∉ line)
    (hne : line ≠ []) : ∃ others, lines (before ++ '\n' :: line) = others ++ [line] :=
  linesFrom_append before h hne []

/-- A line feed ends the line that is being read. -/
theorem linesFrom_cons {line : List Char} (h : '\n' ∉ line) (current rest : List Char) :
    linesFrom current (line ++ '\n' :: rest) =
      dropReturn (current.reverse ++ line) :: linesFrom [] rest := by
  induction line generalizing current with
  | nil => rw [List.nil_append, linesFrom, if_pos rfl, List.append_nil]
  | cons c line ih =>
    obtain ⟨hc, hline⟩ := List.ne_and_not_mem_of_not_mem_cons h
    rw [List.cons_append, linesFrom, if_neg (Ne.symm hc), ih hline, List.reverse_cons,
      List.append_assoc, List.singleton_append]

/-- What stands before the first line feed is the first line. -/
theorem lines_cons {line : List Char} (h : '\n' ∉ line) (rest : List Char) :
    lines (line ++ '\n' :: rest) = dropReturn line :: lines rest :=
  linesFrom_cons h [] rest

/-- A text without a line feed is a line, unless it is empty. -/
theorem lines_of_not_mem {line : List Char} (h : '\n' ∉ line) :
    lines line = if line.isEmpty then [] else [line] := by
  rw [lines, linesFrom_of_not_mem h, List.append_nil, linesFrom, List.isEmpty_reverse,
    List.reverse_reverse]

/-- A carriage return at the end of a line is trimmed away like any other blank. -/
theorem trimChars_dropReturn (line : List Char) : trimChars (dropReturn line) = trimChars line := by
  unfold dropReturn
  split
  · rename_i hlast
    obtain ⟨before, rfl⟩ := List.getLast?_eq_some_iff.mp hlast
    rw [List.dropLast_concat]
    by_cases hblank : ∀ c ∈ before, isBlank c = true
    · rw [trimChars_of_blank hblank, trimChars_of_blank]
      exact List.forall_mem_append.mpr ⟨hblank, by simp [isBlank]⟩
    · have hdrop : ¬(before.dropWhile isBlank).isEmpty = true := fun hnil =>
        hblank (List.dropWhile_eq_nil_iff.mp (List.isEmpty_iff.mp hnil))
      rw [trimChars_eq, trimChars_eq, List.dropWhile_append, if_neg hdrop,
        List.rdropWhile_concat_pos _ _ _ (by decide)]
  · rfl

/-! ### Words -/

/-- The part of a text before the first blank. -/
def beforeBlank (cs : List Char) : List Char := cs.takeWhile fun c => !isBlank c

theorem beforeBlank_cons {c : Char} (h : isBlank c = false) (cs : List Char) :
    beforeBlank (c :: cs) = c :: beforeBlank cs :=
  List.takeWhile_cons_of_pos (by rw [h]; rfl)

/-- A word goes on until a blank follows it. -/
theorem beforeBlank_append {word after : List Char} (hword : ∀ c ∈ word, isBlank c = false)
    (hafter : ∀ c ∈ after.head?, isBlank c = true) : beforeBlank (word ++ after) = word := by
  have hpos : ∀ c ∈ word, (!isBlank c) = true := fun c hc => by rw [hword c hc]; rfl
  unfold beforeBlank
  rw [List.takeWhile_append_of_pos hpos]
  cases after with
  | nil => rw [List.takeWhile_nil, List.append_nil]
  | cons c rest => rw [List.takeWhile_cons_of_neg (by simp [hafter c rfl]), List.append_nil]

/-- The word that is being read goes on to the next blank. -/
theorem head?_wordsFrom {current : List Char} (h : current ≠ []) (cs : List Char) :
    (wordsFrom current cs).head? = some (current.reverse ++ beforeBlank cs) := by
  induction cs generalizing current with
  | nil => simp [wordsFrom, beforeBlank, h]
  | cons c cs ih =>
    cases hblank : isBlank c with
    | true => simp [wordsFrom, beforeBlank, hblank, h]
    | false =>
      rw [wordsFrom, if_neg (by simp [hblank]), ih (List.cons_ne_nil c current),
        beforeBlank_cons hblank, List.reverse_cons, List.append_assoc, List.singleton_append]

/-- Blanks at the start of a text do not count. -/
theorem words_append {blanks : List Char} (h : ∀ c ∈ blanks, isBlank c = true) (cs : List Char) :
    words (blanks ++ cs) = words cs := by
  induction blanks with
  | nil => rfl
  | cons c blanks ih =>
    obtain ⟨hc, hblanks⟩ := List.forall_mem_cons.mp h
    have hstep : words (c :: (blanks ++ cs)) = words (blanks ++ cs) := by
      rw [words, wordsFrom, if_pos hc]
      rfl
    rw [List.cons_append, hstep, ih hblanks]

theorem head?_words_cons {c : Char} (h : isBlank c = false) (cs : List Char) :
    (words (c :: cs)).head? = some (beforeBlank (c :: cs)) := by
  rw [words, wordsFrom, if_neg (by simp [h]), head?_wordsFrom (List.cons_ne_nil c []),
    beforeBlank_cons h]
  rfl

/-- A text begins with some blanks and a word, which a blank or the end of the text follows. -/
structure FirstWord (cs word : List Char) : Prop where
  ne_nil : word ≠ []
  unbroken : ∀ c ∈ word, isBlank c = false
  between : ∃ blanks after, cs = blanks ++ word ++ after ∧ (∀ c ∈ blanks, isBlank c = true) ∧
    ∀ c ∈ after.head?, isBlank c = true

/-- **The first of the words of a text is its first word.** -/
theorem head?_words_eq_some_iff {cs word : List Char} :
    (words cs).head? = some word ↔ FirstWord cs word := by
  constructor
  · intro h
    have hblanks : ∀ c ∈ cs.takeWhile isBlank, isBlank c = true := fun c hc =>
      List.mem_takeWhile_imp hc
    rw [← List.takeWhile_append_dropWhile (p := isBlank) (l := cs), words_append hblanks] at h
    cases hrest : cs.dropWhile isBlank with
    | nil =>
      rw [hrest] at h
      cases h
    | cons c rest =>
      have hc : isBlank c = false := by
        have hhead := List.head_dropWhile_not isBlank (l := cs) (by simp [hrest])
        simpa [hrest] using hhead
      rw [hrest, head?_words_cons hc] at h
      obtain rfl := Option.some.inj h
      refine ⟨?_, fun d hd => by simpa using List.mem_takeWhile_imp hd, cs.takeWhile isBlank,
        (c :: rest).dropWhile fun d => !isBlank d, ?_, hblanks, fun d hd => ?_⟩
      · rw [beforeBlank_cons hc]
        exact List.cons_ne_nil _ _
      · rw [beforeBlank, List.append_assoc, List.takeWhile_append_dropWhile, ← hrest,
          List.takeWhile_append_dropWhile]
      · have hhead := List.head?_dropWhile_not (fun d => !isBlank d) (c :: rest)
        rw [Option.mem_def.mp hd] at hhead
        simpa using hhead
  · rintro ⟨hne, hword, blanks, after, rfl, hblanks, hafter⟩
    obtain ⟨c, rest, rfl⟩ := List.exists_cons_of_ne_nil hne
    rw [List.append_assoc, words_append hblanks, List.cons_append,
      head?_words_cons (hword c List.mem_cons_self), ← List.cons_append,
      beforeBlank_append hword hafter]

end Stopwatch.Text
