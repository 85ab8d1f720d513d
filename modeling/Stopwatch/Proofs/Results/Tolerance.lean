import Stopwatch.Proofs.Json.Edits
import Stopwatch.Proofs.Results.LastLine

/-!
# Results that others wrote

Results are read from the text of any writer that keeps to the schema: its members may stand in another
order, with others among them, without those that hold a default, and with white space between any two
tokens. A text in which a member is missing that has no default, or is written twice, is refused as a
whole.

- `Json.Codec.Faithful.read?_of_edits`: what a codec that obeys the laws makes of an edited text;
- `Results.read?_edited`: what is read of the edited text of some results.
-/

namespace Stopwatch

open Json

namespace Json.Codec

variable {α : Type} {c : Codec α} {s : Content α} {a : α} {v w : Value}

/-- The texts of a value are texts of what it is written as. -/
theorem Faithful.spelled_texts (hc : c.Faithful s) : ∀ text ∈ c.texts a, (c.encode a).Spelled text := by
  intro text htext
  simp only [texts, List.mem_cons, List.not_mem_nil, or_false] at htext
  obtain rfl | rfl | rfl := htext
  · exact ⟨_, Value.parse_compact (hc.readable a), .refl⟩
  · exact ⟨_, Value.parse_indented (hc.readable a), .refl⟩
  · exact ⟨_, Value.parse_indented_append (hc.readable a) "\n" (by decide), .refl⟩

theorem read?_of_spelled {text : String} (h : v.Spelled text) : c.read? text = c.decode v := by
  rw [read?, h.parse?_eq, Option.bind_some]

/-- Edits do not change what is read. -/
theorem Faithful.read?_of_edits (hc : c.Faithful s) (ha : s.Intact a) (hv : c.Edits (c.encode a) v)
    {text : String} (htext : v.Spelled text) : c.read? text = some a := by
  rw [read?_of_spelled htext, hv.decode_eq, hc.reads a ha.toWritten, hc.kept_eq a ha.optional_finite]

end Json.Codec

namespace Results

/-- **Results survive every edit that the schema allows**: after any number of them, and with any
white space between tokens, the same results are read. But with one mandatory member less or a known
member twice, in any record of them, nothing is read. -/
theorem read?_edited {r : Results} (hr : content.Intact r) :
    (∀ text ∈ codec.texts r, (codec.encode r).Spelled text) ∧
      ∀ v, codec.Edits (codec.encode r) v →
        (∀ text, v.Spelled text → codec.read? text = some r) ∧
          ∀ w, codec.Damage v w → ∀ u, codec.Edits w u → ∀ text, u.Spelled text →
            codec.read? text = none := by
  refine ⟨faithful.spelled_texts, fun v hv => ⟨fun text htext => ?_, fun w hw u hu text htext => ?_⟩⟩
  · exact faithful.read?_of_edits hr hv htext
  · rw [Codec.read?_of_spelled htext, hu.decode_eq, hw.decode_eq_none]

/-- One test, and nothing to compare it with. -/
def savedTest : TestResult := ⟨"x", 1, 0, ⟨0.5, 0.5, 0.5, 0.5, 0.0, 0.5⟩, [0.5], none, none⟩

def savedResults : Results := ⟨"T", [⟨"A", [savedTest]⟩], none, none, none⟩

/-- The members of the test as they are written. -/
def savedMembers : List (Label × Value) :=
  [(some "name", .text "x"), (some "iterations", Codec.count.encode 1),
    (some "warmup", Codec.count.encode 0), (some "min", Codec.float.encode 0.5),
    (some "max", Codec.float.encode 0.5), (some "mean", Codec.float.encode 0.5),
    (some "median", Codec.float.encode 0.5), (some "stddev", Codec.float.encode 0.0),
    (some "total", Codec.float.encode 0.5), (some "samples", Codec.float.list.encode [0.5])]

/-- The categories of a document with one test, which has these members. -/
def savedCategories (test : List (Label × Value)) : Label × Value :=
  (some "results", .array [.object
    [(some "category", .text "A"), (some "tests", .array [.object test])]])

/-- A change to the test is a change to the document. -/
theorem within_savedCategories
    {R : (τ : Type) → Fields τ → List (Label × Value) → List (Label × Value) → Prop}
    {test test' : List (Label × Value)}
    (h : Codec.Within R TestResult.codec (.object test) (.object test'))
    (before after : List (Label × Value)) :
    Codec.Within R codec (.object (before ++ savedCategories test :: after))
      (.object (before ++ savedCategories test' :: after)) := by
  have hgroup : Codec.Within R ResultGroup.codec
      (.object [(some "category", .text "A"), (some "tests", .array [.object test])])
      (.object [(some "category", .text "A"), (some "tests", .array [.object test'])]) :=
    .member [(some "category", .text "A")] [] (f := .list "tests" TestResult.codec)
      (.there (by decide) (.here (by decide))) (.item [] [] h)
  exact .member before after (f := .required "results" (.list ResultGroup.codec))
    (.there (by decide) (.here (by decide))) (.item [] [] hgroup)

/-- The document without the comparison and in another order. -/
def savedDocument (test : List (Label × Value)) : Value :=
  .object [savedCategories test, (some "timestamp", .text "T")]

theorem readable_savedDocument {test : List (Label × Value)} (h : ∀ m ∈ test, m.2.Readable) :
    (savedDocument test).Readable := by
  have hgroup : Value.Readable
      (.object [(some "category", .text "A"), (some "tests", .array [.object test])]) :=
    Value.readable_object.mpr (List.forall_mem_cons.mpr ⟨Value.readable_string _,
      List.forall_mem_singleton.mpr (Value.readable_array.mpr
        (List.forall_mem_singleton.mpr (Value.readable_object.mpr h)))⟩)
  exact Value.readable_object.mpr (List.forall_mem_cons.mpr
    ⟨Value.readable_array.mpr (List.forall_mem_singleton.mpr hgroup),
      List.forall_mem_singleton.mpr (Value.readable_string _)⟩)

/-- The members of the test with one that it does not know. -/
def notedMembers : List (Label × Value) := (some "note", .array [.null]) :: savedMembers

/-- The same with a second name. -/
def renamedMembers : List (Label × Value) := (some "name", .text "y") :: notedMembers

theorem read?_edited_savedResults :
    content.Intact savedResults ∧
      codec.read? (savedDocument notedMembers).indented = some savedResults ∧
      codec.read? (savedDocument renamedMembers).compact = none := by
  have hintact : content.Intact savedResults :=
    ⟨⟨by simp [savedResults, savedTest, content, ResultGroup.content, TestResult.content],
      by decide, by decide +kernel, by decide⟩, by decide⟩
  have hnote : codec.Edit (codec.encode savedResults) (.object [(some "timestamp", .text "T"),
      savedCategories notedMembers, (some "comparison", .null)]) :=
    within_savedCategories (.record (.insert [] _ (by decide) _))
      [(some "timestamp", .text "T")] [(some "comparison", .null)]
  have hdrop : codec.Edit (.object [(some "timestamp", .text "T"), savedCategories notedMembers,
      (some "comparison", .null)])
      (.object [(some "timestamp", .text "T"), savedCategories notedMembers]) :=
    .record (.drop [_, _] [] (f := .nullable "comparison" Comparison.codec)
      (.there (by decide) (.there (by decide) (.here (by decide)))) rfl rfl
      (by simp [Field.nullable, savedCategories]))
  have hreorder : codec.Edit (.object [(some "timestamp", .text "T"), savedCategories notedMembers])
      (savedDocument notedMembers) := .record (.reorder (.swap _ _ []))
  have hedits : codec.Edits (codec.encode savedResults) (savedDocument notedMembers) :=
    ((Relation.ReflTransGen.single hnote).tail hdrop).tail hreorder
  have hrepeat : codec.Damage (savedDocument notedMembers) (savedDocument renamedMembers) :=
    within_savedCategories (.record (.repeated (f := .required "name" .text) (.here (by decide))
      (List.sublist_cons_self _ _) (by decide))) [] [(some "timestamp", .text "T")]
  -- the members of the test are readable as all that is written
  have hnoted : ∀ m ∈ notedMembers, m.2.Readable :=
    List.forall_mem_cons.mpr ⟨Value.readable_array.mpr
      (List.forall_mem_singleton.mpr Value.readable_null),
      Value.readable_object.mp (TestResult.faithful.readable savedTest)⟩
  have hrenamed : ∀ m ∈ renamedMembers, m.2.Readable :=
    List.forall_mem_cons.mpr ⟨Value.readable_string _, hnoted⟩
  obtain ⟨hread, hrefused⟩ := (read?_edited hintact).2 _ hedits
  exact ⟨hintact, hread _ ⟨_, Value.parse_indented (readable_savedDocument hnoted), .refl⟩,
    hrefused _ hrepeat _ .refl _ ⟨_, Value.parse_compact (readable_savedDocument hrenamed), .refl⟩⟩

end Results

end Stopwatch
