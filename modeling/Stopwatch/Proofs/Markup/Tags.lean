import Stopwatch.Markup.Piece
import Stopwatch.Proofs.Markup.Replacement

/-!
# The tags of a page

The tags of a text are its segments from a `<` to the next `>`. In a page made of pieces
these are exactly the pieces that are tags: what comes from a user is written without
angle brackets, in an attribute value as well as between tags.

- `Flat`: a text has no angle brackets;
- `tags`, `occurrences`: what a reader of the bare text sees;
- `Piece.Sound`: the author of a piece wrote no angle brackets by hand;
- `tags_page`, `occurrences_page`: for sound pieces, what the reader sees is what the
  author put there.
-/

namespace Stopwatch.Markup

/-- A text without angle brackets. -/
def Flat (cs : List Char) : Prop := ∀ c ∈ cs, c ≠ '<' ∧ c ≠ '>'

instance (cs : List Char) : Decidable (Flat cs) := List.decidableBAll _ cs

@[simp] theorem flat_nil : Flat [] := nofun

@[simp] theorem flat_cons {c : Char} {cs : List Char} :
    Flat (c :: cs) ↔ (c ≠ '<' ∧ c ≠ '>') ∧ Flat cs :=
  List.forall_mem_cons

@[simp] theorem flat_append {cs ds : List Char} : Flat (cs ++ ds) ↔ Flat cs ∧ Flat ds :=
  List.forall_mem_append

/-- A literal is flat if its characters are. -/
theorem flat_ofList {cs : List Char} (h : Flat cs) : Flat (String.ofList cs).toList := by
  rwa [String.toList_ofList]

theorem flat_flatMap {α : Type} {f : α → List Char} {l : List α} (h : ∀ a ∈ l, Flat (f a)) :
    Flat (l.flatMap f) := by
  intro c hc
  obtain ⟨a, ha, hmem⟩ := List.mem_flatMap.mp hc
  exact h a ha c hmem

/-! ### What is written for the text of a user -/

theorem flat_of_notMem {cs : List Char} (hlt : '<' ∉ cs) (hgt : '>' ∉ cs) : Flat cs := by
  intro c hc
  constructor
  · rintro rfl
    exact hlt hc
  · rintro rfl
    exact hgt hc

theorem flat_escape (cs : List Char) : Flat (escape cs) :=
  flat_of_notMem (notMem_escape (by decide) cs) (notMem_escape (by decide) cs)

theorem flat_scriptSafe (cs : List Char) : Flat (scriptSafe cs) :=
  flat_of_notMem (notMem_scriptSafe (by decide) cs) (notMem_scriptSafe (by decide) cs)

/-- An attribute value cannot end before its closing quote. -/
theorem quote_notMem_escape (cs : List Char) : '"' ∉ escape cs := notMem_escape (by decide) cs

/-! ### Reading the bare text -/

/-- The tags of a text, where `opened` holds what was read of a tag that is not closed
yet, last character first. -/
def tagsFrom (opened : Option (List Char)) : List Char → List (List Char)
  | [] => []
  | c :: cs =>
    match opened with
    | none => tagsFrom (if c = '<' then some [] else none) cs
    | some seen =>
      if c = '>' then ('<' :: seen.reverse ++ ['>']) :: tagsFrom none cs
      else tagsFrom (some (c :: seen)) cs

/-- The tags of a text: its segments from a `<` to the next `>`. -/
def tags (cs : List Char) : List (List Char) := tagsFrom none cs

/-- How often a pattern occurs in a text. -/
def occurrences (pattern : List Char) : List Char → Nat
  | [] => 0
  | c :: cs => (if pattern.isPrefixOf (c :: cs) then 1 else 0) + occurrences pattern cs

theorem tags_append_of_flat {cs : List Char} (h : Flat cs) (rest : List Char) :
    tags (cs ++ rest) = tags rest := by
  unfold tags
  induction cs with
  | nil => rfl
  | cons c cs ih =>
    obtain ⟨⟨hlt, _⟩, hcs⟩ := flat_cons.mp h
    rw [List.cons_append, tagsFrom, if_neg hlt]
    exact ih hcs

theorem tagsFrom_some_append {body : List Char} (h : Flat body) (seen rest : List Char) :
    tagsFrom (some seen) (body ++ '>' :: rest) =
      ('<' :: seen.reverse ++ body ++ ['>']) :: tags rest := by
  induction body generalizing seen with
  | nil =>
    rw [List.nil_append, tagsFrom, if_pos rfl, List.append_nil]
    rfl
  | cons c body ih =>
    obtain ⟨⟨_, hgt⟩, hbody⟩ := flat_cons.mp h
    rw [List.cons_append, tagsFrom, if_neg hgt, ih hbody, List.reverse_cons]
    simp only [List.cons_append, List.append_assoc, List.nil_append]

theorem tags_tag {body : List Char} (h : Flat body) (rest : List Char) :
    tags ('<' :: body ++ '>' :: rest) = ('<' :: body ++ ['>']) :: tags rest :=
  tagsFrom_some_append h [] rest

theorem occurrences_append_of_flat {cs : List Char} (h : Flat cs) (pattern rest : List Char) :
    occurrences ('<' :: pattern) (cs ++ rest) = occurrences ('<' :: pattern) rest := by
  induction cs with
  | nil => rfl
  | cons c cs ih =>
    obtain ⟨⟨hlt, _⟩, hcs⟩ := flat_cons.mp h
    have hbeq : ('<' == c) = false := by simpa using Ne.symm hlt
    rw [List.cons_append, occurrences, List.isPrefixOf, hbeq, Bool.false_and,
      if_neg Bool.false_ne_true, Nat.zero_add, ih hcs]

theorem occurrences_tag {body : List Char} (h : Flat body) (pattern rest : List Char) :
    occurrences ('<' :: pattern) ('<' :: body ++ '>' :: rest) =
      (if ('<' :: pattern).isPrefixOf ('<' :: body ++ '>' :: rest) then 1 else 0) +
        occurrences ('<' :: pattern) rest := by
  rw [List.cons_append, occurrences, occurrences_append_of_flat h, occurrences, List.isPrefixOf]
  simp

namespace Piece

/-! ### Pieces -/

/-- The author of a piece wrote no angle brackets by hand. -/
def Sound : Piece → Prop
  | start name attributes => Flat name.toList ∧ ∀ a ∈ attributes, Flat a.1.toList
  | stop name => Flat name.toList
  | fixed s => Flat s.toList
  | text _ => True
  | payload _ => True

theorem flat_attributeChars {a : String × String} (h : Flat a.1.toList) :
    Flat (attributeChars a) := by
  have hequals : Flat ['=', '"'] := by decide
  have hquote : Flat ['"'] := by decide
  unfold attributeChars
  have hname := flat_cons.mpr ⟨(by decide : ' ' ≠ '<' ∧ ' ' ≠ '>'), h⟩
  have hvalue := flat_append.mpr ⟨flat_append.mpr ⟨hname, hequals⟩, flat_escape a.2.toList⟩
  exact flat_append.mpr ⟨hvalue, hquote⟩

/-- A tag is a flat text between angle brackets, whatever the values of its attributes. -/
theorem Sound.chars_eq_tag {piece : Piece} (h : piece.Sound) (htag : piece.isTag = true) :
    ∃ body, Flat body ∧ piece.chars = '<' :: body ++ ['>'] := by
  cases piece with
  | start name attributes =>
    obtain ⟨hname, hattributes⟩ := h
    refine ⟨name.toList ++ attributes.flatMap attributeChars, ?_, rfl⟩
    exact flat_append.mpr
      ⟨hname, flat_flatMap fun a ha => flat_attributeChars (hattributes a ha)⟩
  | stop name => exact ⟨'/' :: name.toList, flat_cons.mpr ⟨by decide, h⟩, rfl⟩
  | fixed s => cases htag
  | text s => cases htag
  | payload v => cases htag

/-- Whatever is not a tag is written flat. -/
theorem Sound.flat_chars {piece : Piece} (h : piece.Sound) (htag : piece.isTag = false) :
    Flat piece.chars := by
  cases piece with
  | start name attributes => cases htag
  | stop name => cases htag
  | fixed s => exact h
  | text s => exact flat_escape _
  | payload v => exact flat_scriptSafe _

/-- How often a pattern starts at a tag of a page. -/
def hits (pattern : List Char) : List Piece → Nat
  | [] => 0
  | piece :: rest =>
    (if piece.isTag && pattern.isPrefixOf ((piece :: rest).flatMap chars) then 1 else 0) +
      hits pattern rest

end Piece

/-- The tags of a page are its tag pieces. -/
theorem tags_page {page : List Piece} (h : ∀ piece ∈ page, piece.Sound) :
    tags (page.flatMap Piece.chars) = (page.filter Piece.isTag).map Piece.chars := by
  induction page with
  | nil => rfl
  | cons piece rest ih =>
    obtain ⟨hpiece, hrest⟩ := List.forall_mem_cons.mp h
    rw [List.flatMap_cons]
    cases htag : piece.isTag with
    -- a tag ends at its own bracket, whatever its attributes say
    | true =>
      obtain ⟨body, hbody, hchars⟩ := hpiece.chars_eq_tag htag
      rw [List.filter_cons_of_pos htag, List.map_cons, hchars, List.append_assoc,
        List.singleton_append, tags_tag hbody, ih hrest]
    | false =>
      rw [List.filter_cons_of_neg (by simp [htag]),
        tags_append_of_flat (hpiece.flat_chars htag), ih hrest]

/-- A pattern that starts with a bracket occurs in a page where it starts at a tag piece. -/
theorem occurrences_page (pattern : List Char) {page : List Piece}
    (h : ∀ piece ∈ page, piece.Sound) :
    occurrences ('<' :: pattern) (page.flatMap Piece.chars) =
      Piece.hits ('<' :: pattern) page := by
  induction page with
  | nil => rfl
  | cons piece rest ih =>
    obtain ⟨hpiece, hrest⟩ := List.forall_mem_cons.mp h
    rw [Piece.hits, List.flatMap_cons]
    cases htag : piece.isTag with
    | true =>
      obtain ⟨body, hbody, hchars⟩ := hpiece.chars_eq_tag htag
      rw [hchars, List.append_assoc, List.singleton_append, occurrences_tag hbody, ih hrest,
        Bool.true_and]
    | false =>
      rw [occurrences_append_of_flat (hpiece.flat_chars htag), ih hrest, Bool.false_and,
        if_neg Bool.false_ne_true, Nat.zero_add]

end Stopwatch.Markup
