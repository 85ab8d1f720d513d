import Stopwatch.Proofs.Json.Carried
import Stopwatch.Proofs.Results.Contents

/-!
# Results that were read from their own text

Whatever becomes of the floats, results are read with the same tests: with their names, and
empty where they were empty. A mean that reads back is kept as well.

- `TestResult.Reread`, `Results.reread_of_read?`: how the tests are related;
- `hasTests_of_read?`: whether there is a test.
-/

namespace Stopwatch

open Json
open Json.Literal (ReadsBack)

theorem isEmpty_eq_of_forall₂ {α β : Type} {R : α → β → Prop} {xs : List α} {ys : List β}
    (h : List.Forall₂ R xs ys) : ys.isEmpty = xs.isEmpty := by
  cases h <;> rfl

namespace TestResult

/-- How a test is related to what is read of it. -/
structure Reread (t t' : TestResult) : Prop where
  name : t'.name = t.name
  isEmpty : t'.isEmpty = t.isEmpty
  mean : ReadsBack t.stats.mean → t'.stats.mean = t.stats.mean

theorem carries : codec.Carries Reread := by
  intro t t' hread
  have hfields := Codec.carries_record
    (.cons (Field.carries_required Codec.carries_text) <|
      .cons (Field.carries_required (Codec.carries_natural 64)) <|
      .cons (Field.carries_any _) <| .cons (Field.carries_any _) <|
      .cons (Field.carries_any _) <|
      .cons (Field.carries_required Codec.carries_float) <|
      .cons (Field.carries_any _) <| .cons (Field.carries_any _) <|
      .cons (Field.carries_any _) <|
      .cons (Field.carries_list Codec.float.carries_any) <|
      .cons (Field.carries_any _) <| .cons (Field.carries_any _) .nil)
    (by decide) (fun _ => rfl) t t' hread
  obtain ⟨hname, hiterations, -, -, -, hmean, -, -, -, hsamples, -⟩ := hfields
  have hcount : t'.iterations = t.iterations := hiterations
  have hempty : t'.samples.isEmpty = t.samples.isEmpty := isEmpty_eq_of_forall₂ hsamples
  refine ⟨hname, ?_, hmean⟩
  unfold isEmpty
  rw [hcount, hempty]

end TestResult

/-- How the tests of some groups are related to what is read of them. -/
def ResultGroup.Reread (g g' : ResultGroup) : Prop :=
  List.Forall₂ TestResult.Reread g.tests g'.tests

theorem ResultGroup.carries : codec.Carries Reread := by
  intro g g' hread
  have hfields := Codec.carries_record
    (.cons (Field.required "category" .text).carries_any <|
      .cons (Field.carries_list TestResult.carries) .nil)
    (by decide) (fun _ => rfl) g g' hread
  exact hfields.2.1

section
variable {groups groups' : List ResultGroup}

theorem all_isEmpty_of_reread (h : List.Forall₂ ResultGroup.Reread groups groups') :
    groups'.all (·.tests.isEmpty) = groups.all (·.tests.isEmpty) := by
  induction h with
  | nil => rfl
  | cons hgroup _ ih =>
    rw [List.all_cons, List.all_cons, ih, isEmpty_eq_of_forall₂ hgroup]

/-- All tests are related, one by one. -/
theorem allTests_of_reread (h : List.Forall₂ ResultGroup.Reread groups groups') :
    List.Forall₂ TestResult.Reread (ResultGroup.allTests groups)
      (ResultGroup.allTests groups') := by
  unfold ResultGroup.allTests
  induction h with
  | nil => exact .nil
  | cons hgroup _ ih =>
    rw [List.flatMap_cons, List.flatMap_cons]
    exact List.rel_append hgroup ih

end

namespace Results

theorem carries : codec.Carries fun r r' =>
    List.Forall₂ ResultGroup.Reread r.groups r'.groups := by
  intro r r' hread
  have hfields := Codec.carries_record
    (.cons (Field.required "timestamp" .text).carries_any <|
      .cons (Field.carries_required (Codec.carries_list ResultGroup.carries)) <|
      .cons (Field.carries_any _) <| .cons (Field.carries_any _) <|
      .cons (Field.carries_any _) .nil)
    (by decide) (fun _ => rfl) r r' hread
  exact hfields.2.1

theorem render_mem_texts (r : Results) : r.render ∈ codec.texts r := by
  simp [render, Codec.texts]

variable {r r' : Results}

/-- Results are read with the same tests. -/
theorem reread_of_read? (h : codec.read? r.render = some r') :
    List.Forall₂ ResultGroup.Reread r.groups r'.groups :=
  carries.of_read? faithful r.render_mem_texts h

/-- Whether there is a test does not depend on how floats are read. -/
theorem hasTests_of_read? (h : codec.read? r.render = some r') :
    r'.hasTests = r.hasTests :=
  congrArg (!·) (all_isEmpty_of_reread (reread_of_read? h))

end Results

end Stopwatch
