import Mathlib.Data.List.Basic
import Stopwatch.Markup.Piece

/-!
# Replacing characters in turn

A table of replacements is carried out row by row, and each row runs over what the rows
before it have written. As long as no row writes a character that a later row is about,
nothing is replaced twice, and the result is the same as if every character were replaced
once, at the same time.

- `substitute`: what a table makes of one character; `InOrder`: no row undoes another;
- `replaceInTurn_eq_flatMap`: in turn is at once, for a table in order;
- `Removed`: a character that a table takes out of every text;
- `escape_eq_flatMap`, `scriptSafe_eq_flatMap`: the two tables of the page are in order.
-/

namespace Stopwatch.Markup

/-- What a table makes of one character: the text of its row, if it has one. -/
def substitute : List (Char × String) → Char → List Char
  | [], c => [c]
  | row :: table, c => if c = row.1 then row.2.toList else substitute table c

/-- No row writes a character that a later row is about. -/
def InOrder (table : List (Char × String)) : Prop :=
  table.Pairwise fun row later => later.1 ∉ row.2.toList

instance (table : List (Char × String)) : Decidable (InOrder table) :=
  inferInstanceAs (Decidable (List.Pairwise _ table))

/-- The table is about a character, and no row writes it. -/
def Removed (table : List (Char × String)) (c : Char) : Prop :=
  c ∈ table.map Prod.fst ∧ ∀ row ∈ table, c ∉ row.2.toList

instance (table : List (Char × String)) (c : Char) : Decidable (Removed table c) :=
  inferInstanceAs (Decidable (_ ∧ _))

section
variable {table : List (Char × String)} {c d : Char}

theorem substitute_of_notMem (h : c ∉ table.map Prod.fst) : substitute table c = [c] := by
  induction table with
  | nil => rfl
  | cons row table ih =>
    rw [List.map_cons, List.mem_cons, not_or] at h
    rw [substitute, if_neg h.1, ih h.2]

/-- Either the character has a row, or it stays as it is. -/
theorem substitute_cases (table : List (Char × String)) (c : Char) :
    (∃ row ∈ table, row.1 = c ∧ substitute table c = row.2.toList) ∨
      c ∉ table.map Prod.fst ∧ substitute table c = [c] := by
  induction table with
  | nil => exact .inr ⟨nofun, rfl⟩
  | cons row table ih =>
    by_cases hrow : c = row.1
    · exact .inl ⟨row, List.mem_cons_self, hrow.symm, by rw [substitute, if_pos hrow]⟩
    · rw [substitute, if_neg hrow]
      rcases ih with ⟨found, hmem, hfound⟩ | ⟨hnone, heq⟩
      · exact .inl ⟨found, List.mem_cons_of_mem row hmem, hfound⟩
      · refine .inr ⟨?_, heq⟩
        rw [List.map_cons, List.mem_cons, not_or]
        exact ⟨hrow, hnone⟩

/-- **In turn is at once**, if the table is in order. -/
theorem replaceInTurn_eq_flatMap (h : InOrder table) (cs : List Char) :
    replaceInTurn table cs = cs.flatMap (substitute table) := by
  induction table generalizing cs with
  | nil => exact (List.flatMap_singleton' cs).symm
  | cons row table ih =>
    obtain ⟨hrow, htable⟩ := List.pairwise_cons.mp h
    -- what the first row writes is left alone by the others
    have hkept : row.2.toList.flatMap (substitute table) = row.2.toList := by
      have hsame : ∀ e ∈ row.2.toList, substitute table e = [e] := by
        intro e he
        refine substitute_of_notMem fun hmem => ?_
        obtain ⟨later, hlater, rfl⟩ := List.mem_map.mp hmem
        exact hrow later hlater he
      rw [List.flatMap_congr hsame, List.flatMap_singleton']
    show replaceInTurn table (replaceChar row.1 row.2.toList cs) = _
    rw [ih htable, replaceChar, List.flatMap_assoc]
    refine List.flatMap_congr fun e _ => ?_
    by_cases he : e = row.1
    · rw [if_pos he, hkept, substitute, if_pos he]
    · rw [if_neg he, List.flatMap_singleton, substitute, if_neg he]

theorem Removed.notMem_substitute (h : Removed table d) (c : Char) : d ∉ substitute table c := by
  intro hd
  rcases substitute_cases table c with ⟨row, hrow, -, heq⟩ | ⟨hnone, heq⟩
  · rw [heq] at hd
    exact h.2 row hrow hd
  · rw [heq, List.mem_singleton] at hd
    exact hnone (hd ▸ h.1)

/-- A table takes the characters out that it is about, unless it writes them itself. -/
theorem Removed.notMem_replaceInTurn (hd : Removed table d) (h : InOrder table)
    (cs : List Char) : d ∉ replaceInTurn table cs := by
  rw [replaceInTurn_eq_flatMap h]
  intro hmem
  obtain ⟨c, _, hc⟩ := List.mem_flatMap.mp hmem
  exact hd.notMem_substitute c hc

end

/-! ### The tables of the page -/

theorem inOrder_entities : InOrder entities := by decide

theorem inOrder_scriptEscapes : InOrder scriptEscapes := by decide

/-- **One entity after the other is all of them at once.** -/
theorem escape_eq_flatMap (cs : List Char) : escape cs = cs.flatMap (substitute entities) :=
  replaceInTurn_eq_flatMap inOrder_entities cs

theorem scriptSafe_eq_flatMap (cs : List Char) :
    scriptSafe cs = cs.flatMap (substitute scriptEscapes) :=
  replaceInTurn_eq_flatMap inOrder_scriptEscapes cs

theorem notMem_escape {d : Char} (h : Removed entities d) (cs : List Char) : d ∉ escape cs :=
  h.notMem_replaceInTurn inOrder_entities cs

theorem notMem_scriptSafe {d : Char} (h : Removed scriptEscapes d) (cs : List Char) :
    d ∉ scriptSafe cs :=
  h.notMem_replaceInTurn inOrder_scriptEscapes cs

theorem scriptSafe_append (cs ds : List Char) :
    scriptSafe (cs ++ ds) = scriptSafe cs ++ scriptSafe ds := by
  rw [scriptSafe_eq_flatMap, List.flatMap_append, ← scriptSafe_eq_flatMap,
    ← scriptSafe_eq_flatMap]

end Stopwatch.Markup
