import Mathlib.Data.List.Infix
import Stopwatch.Proofs.Markup.Replacement

/-!
# Entities are read back

An escaped text holds no character that has a meaning in markup, apart from the ampersands
that the entities begin with, and a reader who takes every entity for its character gets
the text back. This is so for every text, also for one that looks as if it were escaped
already: its ampersands are written as entities of their own.

- `unescape`: reading entities; `unescape_substitute_append`: what was written for a
  character is read as this character, whatever comes after it;
- `exists_entity_of_ampersand`: an ampersand never stands alone;
- `escape_read_back`: nothing is lost.
-/

namespace Stopwatch.Markup

/-- Reads the five entities; every other character is read as itself. -/
def unescape : List Char → List Char
  | '&' :: 'a' :: 'm' :: 'p' :: ';' :: cs => '&' :: unescape cs
  | '&' :: 'l' :: 't' :: ';' :: cs => '<' :: unescape cs
  | '&' :: 'g' :: 't' :: ';' :: cs => '>' :: unescape cs
  | '&' :: 'q' :: 'u' :: 'o' :: 't' :: ';' :: cs => '"' :: unescape cs
  | '&' :: '#' :: '3' :: '9' :: ';' :: cs => '\'' :: unescape cs
  | c :: cs => c :: unescape cs
  | [] => []

theorem unescape_cons {c : Char} (h : c ≠ '&') (cs : List Char) :
    unescape (c :: cs) = c :: unescape cs := by
  rw [unescape] <;> simp [h]

/-- What is written for a character is read as this character. -/
theorem unescape_substitute_append (c : Char) (rest : List Char) :
    unescape (substitute entities c ++ rest) = c :: unescape rest := by
  rcases substitute_cases entities c with ⟨row, hrow, rfl, heq⟩ | ⟨hnone, heq⟩
  · rw [heq]
    simp only [entities, List.mem_cons, List.not_mem_nil, or_false] at hrow
    rcases hrow with rfl | rfl | rfl | rfl | rfl <;> rfl
  · have hamp : c ≠ '&' := by
      rintro rfl
      exact hnone (by decide)
    rw [heq, List.singleton_append, unescape_cons hamp]

theorem unescape_escape (cs : List Char) : unescape (escape cs) = cs := by
  rw [escape_eq_flatMap]
  induction cs with
  | nil => rfl
  | cons c cs ih => rw [List.flatMap_cons, unescape_substitute_append, ih]

/-! ### Ampersands -/

/-- An ampersand in what is written for a character is the first character of its entity. -/
theorem entity_of_ampersand {c : Char} {before after : List Char}
    (h : substitute entities c = before ++ '&' :: after) :
    ∃ row ∈ entities, row.2.toList = '&' :: after := by
  have hhead : ∀ row ∈ entities, '&' ∉ row.2.toList.tail := by decide
  rcases substitute_cases entities c with ⟨row, hrow, -, heq⟩ | ⟨hnone, heq⟩
  · rw [heq] at h
    cases before with
    | nil => exact ⟨row, hrow, h⟩
    | cons d before =>
      have hlater : '&' ∈ row.2.toList.tail := by
        rw [h]
        exact List.mem_append_right before List.mem_cons_self
      exact absurd hlater (hhead row hrow)
  · have hmem : '&' ∈ [c] := by
      rw [← heq, h]
      exact List.mem_append_right before List.mem_cons_self
    obtain rfl := List.mem_singleton.mp hmem
    exact absurd (by decide) hnone

/-- Every ampersand of an escaped text begins an entity. -/
theorem exists_entity_of_ampersand {cs before after : List Char}
    (h : escape cs = before ++ '&' :: after) :
    ∃ row ∈ entities, row.2.toList <+: '&' :: after := by
  rw [escape_eq_flatMap] at h
  induction cs generalizing before with
  | nil => exact absurd h (by simp)
  | cons c cs ih =>
    rw [List.flatMap_cons, List.append_eq_append_iff] at h
    rcases h with ⟨later, -, hrest⟩ | ⟨part, hchar, hrest⟩
    -- it stands behind what is written for the first character
    · exact ih hrest
    · cases part with
      | nil => exact @ih [] hrest.symm
      | cons d part =>
        obtain ⟨rfl, rfl⟩ := List.cons_eq_cons.mp hrest
        obtain ⟨row, hrow, heq⟩ := entity_of_ampersand hchar
        exact ⟨row, hrow, heq ▸ List.prefix_append ('&' :: part) _⟩

/-! ### Escaped texts -/

/-- **Escaping loses nothing**: to write one entity after the other is to write all of them at once, no
character with a meaning in markup is left but the ampersands that begin the entities, and whoever reads the
entities has the text again. So different texts are written differently. -/
theorem escape_read_back (cs : List Char) :
    escape cs = cs.flatMap (substitute entities) ∧
      (∀ c ∈ escape cs, c ≠ '<' ∧ c ≠ '>' ∧ c ≠ '"' ∧ c ≠ '\'') ∧
      (∀ before after, escape cs = before ++ '&' :: after →
        ∃ row ∈ entities, row.2.toList <+: '&' :: after) ∧
      unescape (escape cs) = cs ∧
      ∀ ds, escape ds = escape cs → ds = cs := by
  refine ⟨escape_eq_flatMap cs, fun c hc => ?_, fun _ _ => exists_entity_of_ampersand,
    unescape_escape cs, fun ds hds => ?_⟩
  · refine ⟨?_, ?_, ?_, ?_⟩ <;> rintro rfl <;> exact notMem_escape (by decide) cs hc
  · have hread := congrArg unescape hds
    rwa [unescape_escape, unescape_escape] at hread

/-- A text that looks escaped is not taken for one. -/
example : escape "&lt;'a'".toList = "&amp;lt;&#39;a&#39;".toList := by decide

end Stopwatch.Markup
