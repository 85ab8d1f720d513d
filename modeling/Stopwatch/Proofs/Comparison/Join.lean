import Mathlib.Algebra.GroupWithZero.Nat
import Mathlib.Data.List.Forall2
import Stopwatch.Proofs.Comparison.Lookup

/-!
# Comparisons as a naive join

The naive way to compare two sets of results takes the candidate tests one after the other
and searches the whole baseline for the last test of the same name. A comparison builds an
index of the baseline instead, but what it records is the same.

- `IsLast`: the last element of a list with some property, by its position;
- `placed`: the tests of some groups, each with its category;
- `Record.Joins`: what the naive search records of a test;
- `of_joins`: a comparison records just that, and counts what it records.
-/

namespace Stopwatch.Comparison

/-! ### Last elements -/

/-- An element that has a property, with none behind it that has. -/
def IsLast {α : Type} (p : α → Prop) (xs : List α) (x : α) : Prop :=
  ∃ before after, xs = before ++ x :: after ∧ p x ∧ ∀ y ∈ after, ¬p y

theorem IsLast.mem {α : Type} {p : α → Prop} {xs : List α} {x : α} (h : IsLast p xs x) :
    x ∈ xs := by
  obtain ⟨before, after, rfl, _, _⟩ := h
  exact List.mem_append_right before List.mem_cons_self

theorem getLast?_filter_eq_some_iff {α : Type} {p : α → Bool} {xs : List α} {x : α} :
    (xs.filter p).getLast? = some x ↔ IsLast (p · = true) xs x := by
  -- from behind, the last element is the first
  rw [List.getLast?_eq_head?_reverse, ← List.filter_reverse, List.head?_filter,
    List.find?_eq_some_iff_append]
  constructor
  · rintro ⟨hx, before, after, hxs, hbefore⟩
    refine ⟨after.reverse, before.reverse, ?_, hx, ?_⟩
    · rw [← List.reverse_reverse xs, hxs, List.reverse_append, List.reverse_cons,
        List.append_assoc, List.singleton_append]
    · intro y hy
      simpa using hbefore y (List.mem_reverse.mp hy)
  · rintro ⟨before, after, rfl, hx, hafter⟩
    refine ⟨hx, after.reverse, before.reverse, ?_, ?_⟩
    · rw [List.reverse_append, List.reverse_cons, List.append_assoc, List.singleton_append]
    · intro y hy
      simpa using hafter y (List.mem_reverse.mp hy)

/-- A name finds the last test that has it. -/
theorem lastNamed?_eq_some_iff {name : String} {tests : List TestResult} {t : TestResult} :
    lastNamed? name tests = some t ↔ IsLast (·.name = name) tests t := by
  unfold lastNamed?
  rw [getLast?_filter_eq_some_iff]
  simp only [beq_iff_eq]

theorem lastNamed?_eq_none_iff {name : String} {tests : List TestResult} :
    lastNamed? name tests = none ↔ ∀ t ∈ tests, t.name ≠ name := by
  unfold lastNamed?
  rw [List.getLast?_eq_none_iff, List.filter_eq_nil_iff]
  simp only [beq_iff_eq, ne_eq]

/-! ### The join -/

/-- The tests of some groups in order, each with its category. -/
def placed (groups : List ResultGroup) : List (String × TestResult) :=
  groups.flatMap fun g => g.tests.map (g.category, ·)

theorem length_placed (groups : List ResultGroup) :
    (placed groups).length = ResultGroup.testCount groups := by
  simp [placed, ResultGroup.testCount, ResultGroup.allTests, List.length_flatMap]

/-- What is recorded of a test if the baseline is searched for the last test of its name. -/
structure Record.Joins (baseline : List TestResult) (category : String) (test : TestResult)
    (r : Record) : Prop where
  name : r.name = test.name
  category : r.category = category
  candidate : r.candidate = .ofSummary test.stats
  counterpart : ∀ figures, r.baseline = some figures ↔
    ∃ base, IsLast (·.name = test.name) baseline base ∧ figures = .ofSummary base.stats
  absent : r.baseline = none ↔ ∀ base ∈ baseline, base.name ≠ test.name
  ratio : r.ratio.isSome = r.baseline.isSome
  percentDiff : r.percentDiff.isSome = r.baseline.isSome
  faster : r.faster.isSome = r.baseline.isSome
  speedup : r.speedup.isSome = r.baseline.isSome

theorem joins_beside (baseline : List TestResult) (category : String) (test : TestResult) :
    (beside category test (lastNamed? test.name baseline)).Joins baseline category test := by
  have hlast (base : TestResult) : lastNamed? test.name baseline = some base ↔
      IsLast (·.name = test.name) baseline base := lastNamed?_eq_some_iff
  have hnone : lastNamed? test.name baseline = none ↔
      ∀ base ∈ baseline, base.name ≠ test.name := lastNamed?_eq_none_iff
  -- the search decides which of the two kinds of records it is
  cases hfound : lastNamed? test.name baseline with
  | none =>
    refine ⟨rfl, rfl, rfl, ?_, ⟨fun _ => hnone.mp hfound, fun _ => rfl⟩, rfl, rfl, rfl, rfl⟩
    intro figures
    refine ⟨nofun, ?_⟩
    rintro ⟨base, hbase, _⟩
    rw [(hlast base).mpr hbase] at hfound
    cases hfound
  | some base =>
    refine ⟨rfl, rfl, rfl, ?_, ⟨nofun, ?_⟩, rfl, rfl, rfl, rfl⟩
    · intro figures
      constructor
      · intro h
        exact ⟨base, (hlast base).mp hfound, (Option.some.inj h).symm⟩
      · rintro ⟨base', hbase', rfl⟩
        rw [(hlast base').mpr hbase'] at hfound
        rw [Option.some.inj hfound]
        rfl
    · intro h
      rw [hnone.mpr h] at hfound
      cases hfound

/-- The records of a comparison, as those of the placed tests. -/
theorem records_of_placed (candidate baseline : List ResultGroup) :
    (of candidate (some baseline)).records = (placed candidate).map fun p =>
      beside p.1 p.2 (lastNamed? p.2.name (ResultGroup.allTests baseline)) := by
  rw [records_of, placed, List.map_flatMap]
  simp only [List.map_map, Function.comp_def]

/-- How many candidate tests have a counterpart. -/
theorem compared_of (candidate baseline : List ResultGroup) :
    (of candidate (some baseline)).totals.compared = (placed candidate).countP fun p =>
      (ResultGroup.allTests baseline).any (·.name == p.2.name) := by
  rw [compared_eq, records_of_placed, List.countP_map]
  refine List.countP_congr fun p _ => ?_
  rw [Function.comp_apply, beside_baseline, Option.isSome_map, lastNamed?, List.getLast?_isSome,
    ne_eq, List.filter_eq_nil_iff, List.any_eq_true]
  simp only [not_forall, not_not, exists_prop]

/-- **A comparison is the naive join**: one record for every candidate test, in order, each
with the last baseline test of its name, whatever the category of that; and its totals
count the records, those with a counterpart and the tests of the baseline. Without a
baseline there is nothing to join. -/
theorem of_joins (candidate baseline : List ResultGroup) :
    let c := of candidate (some baseline)
    List.Forall₂ (fun p r => r.Joins (ResultGroup.allTests baseline) p.1 p.2)
        (placed candidate) c.records ∧
      c.totals.compared = c.records.countP (·.baseline.isSome) ∧
      c.totals.compared = ((placed candidate).countP fun p =>
        (ResultGroup.allTests baseline).any (·.name == p.2.name)) ∧
      c.totals.candidateTests = c.records.length ∧
      c.totals.baselineTests = (baseline.map (·.tests.length)).sum ∧
      (of candidate none).records = [] ∧
      (of candidate none).totals.compared = 0 ∧
      (of candidate none).totals.baselineTests = 0 := by
  refine ⟨?_, compared_eq candidate baseline, compared_of candidate baseline, ?_, ?_, rfl, rfl, rfl⟩
  · rw [records_of_placed, List.forall₂_map_right_iff, List.forall₂_same]
    exact fun p _ => joins_beside _ p.1 p.2
  · rw [records_of_placed, List.length_map, length_placed]
    rfl
  · show ResultGroup.testCount baseline = _
    rw [ResultGroup.testCount, ResultGroup.allTests, List.length_flatMap]

end Stopwatch.Comparison
