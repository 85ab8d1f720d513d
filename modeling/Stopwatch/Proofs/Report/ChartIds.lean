import Mathlib
import Stopwatch.Json.Token
import Stopwatch.Proofs.Markup.Replacement
import Stopwatch.Proofs.Artifact.Names
import Stopwatch.Report.Basic

/-!
# Chart ids

The id of a chart is the index of its section and a slug of the category. A slug is written character by
character, with a flag for the dash of the present gap; what has been written at any point are the runs of
letters and digits so far, with single dashes between them and one behind them in a gap. The index ends at
the first dash behind it, whatever the slug is, so the sections of a report have different ids. No character
of an id has a meaning in markup or in a JSON string.

- `Report.alphanumericRuns`: the runs of letters and digits of a text;
- `Report.Slug.written`: what has been written of a slug after some runs;
- `Report.slug_eq`: a slug is the runs with single dashes between them;
- `Report.IsWord`, `Report.exists_words`: a run of lower case letters and digits, of which a slug is made;
- `Report.chartId_inj`: an id tells the index of its section;
- `Report.Plain`, `Report.plain_chartId`: texts that are written as they are everywhere.
-/

namespace Stopwatch

namespace Report

/-! ### Characters -/

/-- A lower case letter or a digit. -/
def isWordChar (c : Char) : Bool := c.isLower || c.isDigit

/-- What holds of every ASCII character holds of each of them. -/
theorem of_ascii {P : Char → Prop} (h : ∀ n < 128, P (Char.ofNat n)) {c : Char}
    (hc : c.toNat < 128) : P c := by
  have hchar := h _ hc
  rwa [Char.ofNat_toNat] at hchar

theorem lt_of_isAlphanum {c : Char} (h : c.isAlphanum = true) : c.toNat < 128 := by
  simp only [Char.isAlphanum, Char.isAlpha, Char.isUpper, Char.isLower, Char.isDigit,
    Bool.or_eq_true, Bool.and_eq_true, decide_eq_true_eq, ge_iff_le, UInt32.le_iff_toNat_le] at h
  have hval : c.toNat = c.val.toNat := rfl
  have hupper : 'Z'.val.toNat = 90 := rfl
  have hlower : 'z'.val.toNat = 122 := rfl
  have hdigit : '9'.val.toNat = 57 := rfl
  omega

theorem isWordChar_toLower {c : Char} (h : c.isAlphanum = true) : isWordChar c.toLower = true :=
  of_ascii (P := fun c => c.isAlphanum = true → isWordChar c.toLower = true) (by decide)
    (lt_of_isAlphanum h) h

/-! ### Runs -/

/-- The longest runs of ASCII letters and digits; `current` holds the one being read, last character
first. -/
def alphanumericRuns (current : List Char) : List Char → List (List Char)
  | [] => if current.isEmpty then [] else [current.reverse]
  | c :: cs =>
    if c.isAlphanum then alphanumericRuns (c :: current) cs
    else if current.isEmpty then alphanumericRuns [] cs
    else current.reverse :: alphanumericRuns [] cs

/-- The run that is being read and the rest of the text make up the runs. -/
theorem alphanumericRuns_spec (current : List Char) (h : ∀ c ∈ current, c.isAlphanum = true)
    (text : List Char) :
    (∀ run ∈ alphanumericRuns current text, run ≠ [] ∧ ∀ c ∈ run, c.isAlphanum = true) ∧
      (alphanumericRuns current text).flatten =
        current.reverse ++ text.filter Char.isAlphanum := by
  induction text generalizing current with
  | nil =>
    rw [alphanumericRuns]
    split
    · rename_i hempty
      simp [List.isEmpty_iff.mp hempty]
    · rename_i hsome
      simpa [List.isEmpty_iff.not.mp hsome] using h
  | cons c text ih =>
    rw [alphanumericRuns]
    split
    · rename_i hc
      obtain ⟨hruns, hflatten⟩ := ih (c :: current) (List.forall_mem_cons.mpr ⟨hc, h⟩)
      refine ⟨hruns, ?_⟩
      rw [hflatten, List.filter_cons_of_pos hc, List.reverse_cons, List.append_assoc,
        List.singleton_append]
    · rename_i hc
      obtain ⟨hruns, hflatten⟩ := ih [] nofun
      rw [List.filter_cons_of_neg hc]
      split
      · rename_i hempty
        rw [List.isEmpty_iff.mp hempty]
        exact ⟨hruns, hflatten⟩
      · rename_i hsome
        refine ⟨List.forall_mem_cons.mpr ⟨⟨?_, fun d hd => h d (List.mem_reverse.mp hd)⟩, hruns⟩, ?_⟩
        · simpa using List.isEmpty_iff.not.mp hsome
        · rw [List.flatten_cons, hflatten]
          rfl

/-! ### Slugs -/

/-- Some runs in lower case, with single dashes between them. -/
def joined (runs : List (List Char)) : List Char := ['-'].intercalate (runs.map (·.map Char.toLower))

theorem intercalate_append_singleton (separator word : List Char) {words : List (List Char)} (h : words ≠ []) :
    separator.intercalate (words ++ [word]) = separator.intercalate words ++ separator ++ word := by
  induction words with
  | nil => exact absurd rfl h
  | cons first words ih =>
    cases words with
    | nil => simp [List.intercalate]
    | cons next words =>
      rw [List.cons_append, List.cons_append, List.intercalate_cons_cons, ← List.cons_append,
        ih (List.cons_ne_nil _ _), List.intercalate_cons_cons]
      simp only [List.append_assoc]

/-- A run more comes behind a dash. -/
theorem joined_append_singleton (run : List Char) {runs : List (List Char)} (h : runs ≠ []) :
    joined (runs ++ [run]) = joined runs ++ '-' :: run.map Char.toLower := by
  have hmap : runs.map (·.map Char.toLower) ≠ [] := by simpa using h
  rw [joined, List.map_append, List.map_singleton, intercalate_append_singleton _ _ hmap,
    List.append_assoc]
  rfl

/-- A longer last run makes a longer text. -/
theorem joined_append_run (runs : List (List Char)) (run more : List Char) :
    joined (runs ++ [run ++ more]) = joined (runs ++ [run]) ++ more.map Char.toLower := by
  by_cases h : runs = []
  · simp [h, joined, List.intercalate]
  · simp [joined_append_singleton _ h]

namespace Slug

/-- What has been written after some runs and a part of the next one, which has its last character first.
In a gap there is a dash, except in front of everything. -/
def written (runs : List (List Char)) (current : List Char) : Slug :=
  if current = [] then if runs = [] then start else ⟨joined runs ++ ['-'], true⟩
  else ⟨joined (runs ++ [current.reverse]), false⟩

variable {runs : List (List Char)} {current : List Char} {c : Char}

theorem joined_ne_nil (runs : List (List Char)) {current : List Char} (h : current ≠ []) :
    joined (runs ++ [current]) ≠ [] := by
  by_cases hruns : runs = []
  · simp [hruns, joined, List.intercalate, h]
  · simp [joined_append_singleton _ hruns]

/-- A letter or digit makes the present run longer. -/
theorem push_written_of_isAlphanum (h : c.isAlphanum = true) :
    (written runs current).push c = written runs (c :: current) := by
  have hchars : (written runs current).chars ++ [c.toLower] = joined (runs ++ [(c :: current).reverse]) := by
    unfold written
    rw [List.reverse_cons]
    split
    · rename_i hcurrent
      subst hcurrent
      split
      · rename_i hruns
        simp [hruns, start, joined, List.intercalate]
      · rename_i hruns
        simp [joined_append_singleton _ hruns]
    · rw [joined_append_run]
      rfl
  rw [push, if_pos h, hchars, written, if_neg (List.cons_ne_nil c current)]

/-- Anything else ends a run. -/
theorem push_written_of_not (h : ¬c.isAlphanum = true) (hcurrent : current ≠ []) :
    (written runs current).push c = written (runs ++ [current.reverse]) [] := by
  have hne : joined (runs ++ [current.reverse]) ≠ [] := joined_ne_nil runs (by simpa using hcurrent)
  rw [push, if_neg h, written, if_neg hcurrent]
  simp [written, hne]

/-- Anything else has no effect in a gap. -/
theorem push_written_nil (h : ¬c.isAlphanum = true) : (written runs []).push c = written runs [] := by
  rw [push, if_neg h, written, if_pos rfl]
  split
  · simp [start]
  · simp

end Slug

theorem trimDashes_append_dash (cs : List Char) : trimDashes (cs ++ ['-']) = trimDashes cs := by
  simp [trimDashes]

theorem trimDashes_of_getLast {cs : List Char} {c : Char} (h : c ≠ '-') :
    trimDashes (cs ++ [c]) = cs ++ [c] := by
  simp [trimDashes, h]

theorem toLower_ne_dash {c : Char} (h : c.isAlphanum = true) : c.toLower ≠ '-' :=
  of_ascii (P := fun c => c.isAlphanum = true → c.toLower ≠ '-') (by decide) (lt_of_isAlphanum h) h

/-- Runs of letters and digits have no dash at the end. -/
theorem trimDashes_joined {runs : List (List Char)}
    (h : ∀ run ∈ runs, run ≠ [] ∧ ∀ c ∈ run, c.isAlphanum = true) :
    trimDashes (joined runs) = joined runs := by
  obtain rfl | ⟨others, run, rfl⟩ := List.eq_nil_or_concat runs
  · rfl
  · obtain ⟨hne, hchars⟩ := h run (by simp)
    obtain rfl | ⟨front, last, rfl⟩ := List.eq_nil_or_concat run
    · exact absurd rfl hne
    · have hlast : last.toLower ≠ '-' := toLower_ne_dash (hchars last (by simp))
      simp only [List.concat_eq_append] at hlast ⊢
      rw [joined_append_run]
      exact trimDashes_of_getLast hlast

/-- The slug that the rest of a text leads to, from what has been written. -/
theorem trimDashes_foldl_written (text : List Char) (runs : List (List Char)) (current : List Char)
    (hruns : ∀ run ∈ runs, run ≠ [] ∧ ∀ c ∈ run, c.isAlphanum = true)
    (hcurrent : ∀ c ∈ current, c.isAlphanum = true) :
    trimDashes (text.foldl Slug.push (Slug.written runs current)).chars =
      joined (runs ++ alphanumericRuns current text) := by
  induction text generalizing runs current with
  | nil =>
    rw [List.foldl_nil, alphanumericRuns, Slug.written]
    by_cases hnil : current = []
    · -- the dash of a gap at the end is trimmed
      subst hnil
      show trimDashes (if runs = [] then Slug.start else _).chars = joined (runs ++ [])
      rw [List.append_nil]
      split
      · rename_i hruns
        rw [hruns]
        rfl
      · rw [trimDashes_append_dash, trimDashes_joined hruns]
    · rw [if_neg hnil, if_neg (by simpa using hnil)]
      refine trimDashes_joined (List.forall_mem_append.mpr ⟨hruns, List.forall_mem_singleton.mpr ?_⟩)
      exact ⟨by simpa using hnil, fun c hc => hcurrent c (List.mem_reverse.mp hc)⟩
  | cons c text ih =>
    rw [List.foldl_cons, alphanumericRuns]
    by_cases hc : c.isAlphanum = true
    · rw [Slug.push_written_of_isAlphanum hc, if_pos hc]
      exact ih runs (c :: current) hruns (List.forall_mem_cons.mpr ⟨hc, hcurrent⟩)
    · rw [if_neg hc]
      by_cases hnil : current = []
      · subst hnil
        rw [Slug.push_written_nil hc]
        exact ih runs [] hruns nofun
      · have hsnoc : runs ++ current.reverse :: alphanumericRuns [] text =
            runs ++ [current.reverse] ++ alphanumericRuns [] text := List.append_cons _ _ _
        rw [Slug.push_written_of_not hc hnil, if_neg (by simpa using hnil), hsnoc]
        refine ih _ [] (List.forall_mem_append.mpr ⟨hruns, List.forall_mem_singleton.mpr ?_⟩) nofun
        exact ⟨by simpa using hnil, fun d hd => hcurrent d (List.mem_reverse.mp hd)⟩

/-- **A slug is the runs of letters and digits of the text**, in lower case and with single dashes between
them. -/
theorem slug_eq (text : List Char) : slug text = joined (alphanumericRuns [] text) :=
  trimDashes_foldl_written text [] [] nofun nofun

/-! ### Words -/

/-- A run of lower case letters and digits. -/
structure IsWord (word : List Char) : Prop where
  ne_nil : word ≠ []
  chars : ∀ c ∈ word, isWordChar c = true

/-- The letters and digits of a text, in lower case. -/
def lettersAndDigits (text : List Char) : List Char :=
  (text.filter Char.isAlphanum).map Char.toLower

/-- A slug is made of words with single dashes between them, and the words of the letters and digits of
the text. -/
theorem exists_words (text : List Char) :
    ∃ words, slug text = ['-'].intercalate words ∧ (∀ word ∈ words, IsWord word) ∧
      words.flatten = lettersAndDigits text := by
  obtain ⟨hruns, hflatten⟩ := alphanumericRuns_spec [] nofun text
  refine ⟨_, slug_eq text, List.forall_mem_map.mpr fun run hrun => ?_, ?_⟩
  · obtain ⟨hne, hchars⟩ := hruns run hrun
    refine ⟨by simpa using hne, List.forall_mem_map.mpr fun c hc => ?_⟩
    exact isWordChar_toLower (hchars c hc)
  · rw [← List.map_flatten, hflatten]
    rfl

/-! ### Texts that are written as they are -/

/-- A text of lower case letters, digits and dashes. -/
def Plain (cs : List Char) : Prop := ∀ c ∈ cs, isWordChar c = true ∨ c = '-'

@[simp] theorem plain_cons {c : Char} {cs : List Char} :
    Plain (c :: cs) ↔ (isWordChar c = true ∨ c = '-') ∧ Plain cs := List.forall_mem_cons

@[simp] theorem plain_append {cs ds : List Char} : Plain (cs ++ ds) ↔ Plain cs ∧ Plain ds :=
  List.forall_mem_append

theorem IsWord.plain {word : List Char} (h : IsWord word) : Plain word := fun c hc =>
  .inl (h.chars c hc)

theorem plain_intercalate {words : List (List Char)} (h : ∀ word ∈ words, IsWord word) :
    Plain (['-'].intercalate words) := by
  induction words with
  | nil => exact nofun
  | cons word words ih =>
    obtain ⟨hword, hwords⟩ := List.forall_mem_cons.mp h
    cases words with
    | nil => simpa using hword.plain
    | cons next words =>
      rw [List.intercalate_cons_cons, plain_append, plain_append]
      exact ⟨⟨hword.plain, by simp [Plain]⟩, ih hwords⟩

namespace Plain

variable {cs : List Char}

theorem of_forall_ascii (h : Plain cs) {P : Char → Prop}
    (hP : ∀ n < 128, isWordChar (Char.ofNat n) = true ∨ Char.ofNat n = '-' → P (Char.ofNat n)) :
    ∀ c ∈ cs, P c := by
  intro c hc
  refine of_ascii (P := fun c => isWordChar c = true ∨ c = '-' → P c) hP ?_ (h c hc)
  obtain hword | rfl := h c hc
  · refine lt_of_isAlphanum ?_
    simp only [isWordChar, Bool.or_eq_true] at hword
    simp only [Char.isAlphanum, Char.isAlpha, Bool.or_eq_true]
    tauto
  · decide

/-- A text stays as it is if each of its characters does. -/
theorem flatMap_eq (h : Plain cs) {f : Char → List Char}
    (hf : ∀ n < 128, isWordChar (Char.ofNat n) = true ∨ Char.ofNat n = '-' →
      f (Char.ofNat n) = [Char.ofNat n]) : cs.flatMap f = cs := by
  have hchars := h.of_forall_ascii (P := fun c => f c = [c]) hf
  clear h
  induction cs with
  | nil => rfl
  | cons c cs ih =>
    obtain ⟨hc, hcs⟩ := List.forall_mem_cons.mp hchars
    rw [List.flatMap_cons, hc, ih hcs, List.singleton_append]

theorem escape_eq (h : Plain cs) : Markup.escape cs = cs :=
  (Markup.escape_eq_flatMap cs).trans (h.flatMap_eq (by decide))

theorem scriptSafe_eq (h : Plain cs) : Markup.scriptSafe cs = cs :=
  (Markup.scriptSafe_eq_flatMap cs).trans (h.flatMap_eq (by decide))

theorem labelChars_eq {s : String} (h : Plain s.toList) :
    Json.labelChars (some s) = '"' :: (s.toList ++ ['"']) := by
  have hescaped := h.flatMap_eq (f := Json.escapeChar) (by decide)
  show '"' :: (s.toList.flatMap Json.escapeChar ++ ['"']) = _
  rw [hescaped]

theorem quote_notMem (h : Plain cs) : '"' ∉ cs := fun hmem =>
  absurd (h _ hmem) (by decide)

end Plain

/-! ### Ids -/

/-- The characters of an id. -/
theorem toList_chartId (index : Nat) (category : String) :
    (chartId index category).toList =
      "chart-".toList ++ (Nat.toDigits 10 index ++ '-' :: slug category.toList) :=
  String.toList_ofList.trans (List.append_assoc _ _ _)

/-- **An id tells the index of its section.** -/
theorem chartId_inj {i j : Nat} {a b : String} (h : chartId i a = chartId j b) : i = j := by
  have hchars := congrArg String.toList h
  rw [toList_chartId, toList_chartId] at hchars
  have hrest := List.append_cancel_left hchars
  exact ((digitsOf_toDigits i).append_inj (digitsOf_toDigits j) (by decide) hrest).1

/-- So no two sections of a list have the same id. -/
theorem nodup_chartIds (groups : List ResultGroup) :
    (groups.mapIdx fun i g => chartId i g.category).Nodup := by
  rw [List.nodup_iff_getElem?_ne_getElem?]
  intro i j hij hj heq
  rw [List.length_mapIdx] at hj
  rw [List.getElem?_mapIdx, List.getElem?_mapIdx, List.getElem?_eq_getElem hj,
    List.getElem?_eq_getElem (Nat.lt_trans hij hj)] at heq
  exact Nat.ne_of_lt hij (chartId_inj (Option.some.inj heq))

/-- An id is written as it is. -/
theorem plain_chartId (index : Nat) (category : String) :
    Plain (chartId index category).toList := by
  obtain ⟨words, hslug, hwords, -⟩ := exists_words category.toList
  have hdigits : Plain (Nat.toDigits 10 index) := fun c hc => by
    have hdigit := (digitsOf_toDigits index).isDigit c hc
    simp [isWordChar, hdigit]
  have hname : Plain "chart-".toList := by
    have hall : ("chart-".toList.all fun c => isWordChar c || c == '-') = true := by decide
    intro c hc
    simpa using List.all_eq_true.mp hall c hc
  rw [toList_chartId, hslug, plain_append, plain_append, plain_cons]
  exact ⟨hname, hdigits, .inr rfl, plain_intercalate hwords⟩

end Report

end Stopwatch
