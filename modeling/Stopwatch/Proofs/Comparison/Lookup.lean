import Stopwatch.Comparison

/-!
# What a name finds in a baseline

The tests of a baseline are filed one after the other under their names. The index that
results answers a name with the *last* test of that name.

- `lookup_replace`, `Index.lookup_insert`: filing changes the answer for one name only;
- `Index.lookup_ofGroups`: what the whole index answers;
- `Join.Counts`: the invariant of the loop over the candidate;
- `records_of`, `compared_eq`: the records of a comparison, test by test, and their count.
-/

namespace Stopwatch.Comparison

/-- The last of some tests with a name. -/
def lastNamed? (name : String) (tests : List TestResult) : Option TestResult :=
  (tests.filter (·.name == name)).getLast?

theorem lastNamed?_nil (name : String) : lastNamed? name [] = none := rfl

theorem lastNamed?_cons (name : String) (test : TestResult) (tests : List TestResult) :
    lastNamed? name (test :: tests) =
      (lastNamed? name tests).or (if test.name = name then some test else none) := by
  unfold lastNamed?
  by_cases h : test.name = name
  · rw [List.filter_cons_of_pos (by simpa using h), List.getLast?_cons, if_pos h]
    cases (tests.filter (·.name == name)).getLast? <;> rfl
  · rw [List.filter_cons_of_neg (by simpa using h), if_neg h, Option.or_none]

/-! ### Entries by name -/

section
variable {α : Type}

theorem lookup_filter_ne {name other : String} (h : other ≠ name) (entries : List (String × α)) :
    List.lookup other (entries.filter (·.1 != name)) = entries.lookup other := by
  induction entries with
  | nil => rfl
  | cons entry rest ih =>
    obtain ⟨key, value⟩ := entry
    by_cases hkey : key = name
    · have hother : (other == key) = false := by simpa [hkey] using h
      rw [List.filter_cons_of_neg (by simpa using hkey), List.lookup_cons, hother]
      exact ih
    · rw [List.filter_cons_of_pos (by simpa using hkey), List.lookup_cons, List.lookup_cons, ih]

/-- An entry that replaces those of its name changes the answer for that name only. -/
theorem lookup_replace (name other : String) (value : α) (entries : List (String × α)) :
    List.lookup other ((name, value) :: entries.filter (·.1 != name)) =
      (if name = other then some value else none).or (entries.lookup other) := by
  rw [List.lookup_cons]
  by_cases h : name = other
  · simp [h]
  -- what is replaced was filed under the other name
  · have hother : (other == name) = false := by simpa using Ne.symm h
    rw [hother, if_neg h, Option.none_or]
    exact lookup_filter_ne (Ne.symm h) entries

end

namespace Index

/-- Filing a test changes the answer for its own name only. -/
theorem lookup_insert (index : Index) (test : TestResult) (name : String) :
    (index.insert test).lookup name =
      (if test.name = name then some test else none).or (index.lookup name) :=
  lookup_replace test.name name test index

theorem lookup_foldl_insert (name : String) (tests : List TestResult) (index : Index) :
    (tests.foldl insert index).lookup name =
      (lastNamed? name tests).or (index.lookup name) := by
  induction tests generalizing index with
  | nil => rw [List.foldl_nil, lastNamed?_nil, Option.none_or]
  | cons test rest ih =>
    rw [List.foldl_cons, ih, lookup_insert, lastNamed?_cons, Option.or_assoc]

/-- The index of a baseline answers a name with the last test of that name in any category. -/
theorem lookup_ofGroups (groups : List ResultGroup) (name : String) :
    (ofGroups groups).lookup name = lastNamed? name (ResultGroup.allTests groups) := by
  unfold ofGroups
  rw [lookup_foldl_insert, List.lookup_nil, Option.or_none]

end Index

/-- The record of a test, given its counterpart if there is one. -/
def beside (category : String) (test : TestResult) : Option TestResult → Record
  | some base => .joined category test base
  | none => .alone category test

/-- What a record says of the baseline are the figures of the counterpart. -/
theorem beside_baseline (category : String) (test : TestResult) (base : Option TestResult) :
    (beside category test base).baseline = base.map (Spread.ofSummary ·.stats) := by
  cases base <;> rfl

/-- The figures of the counterpart determine the whole record. -/
theorem beside_congr (category : String) (test : TestResult) {base base' : Option TestResult}
    (h : base.map (Spread.ofSummary ·.stats) = base'.map (Spread.ofSummary ·.stats)) :
    beside category test base = beside category test base' := by
  cases base with
  | none =>
    cases base' with
    | none => rfl
    | some b' => cases h
  | some b =>
    cases base' with
    | none => cases h
    | some b' =>
      have hfigures : Spread.ofSummary b.stats = Spread.ofSummary b'.stats := Option.some.inj h
      have hmean : b.stats.mean = b'.stats.mean := congrArg Spread.mean hfigures
      simp only [beside, Record.joined, hfigures, hmean]

/-! ### The loop over the candidate -/

namespace Join

/-- One more test adds its record. -/
theorem toList_add (index : Index) (category : String) (j : Join) (test : TestResult) :
    (j.add index category test).records.toList =
      j.records.toList ++ [beside category test (index.lookup test.name)] := by
  unfold add
  cases index.lookup test.name <;> exact Array.toList_push

theorem toList_addGroup (index : Index) (j : Join) (group : ResultGroup) :
    (j.addGroup index group).records.toList = j.records.toList ++
      group.tests.map fun t => beside group.category t (index.lookup t.name) := by
  unfold addGroup
  generalize group.tests = tests
  induction tests generalizing j with
  | nil => exact (List.append_nil _).symm
  | cons test tests ih => rw [List.foldl_cons, ih, toList_add, List.append_assoc]; rfl

theorem toList_foldl_addGroup (index : Index) (j : Join) (groups : List ResultGroup) :
    (groups.foldl (addGroup index) j).records.toList = j.records.toList ++
      groups.flatMap fun g => g.tests.map fun t => beside g.category t (index.lookup t.name) := by
  induction groups generalizing j with
  | nil => exact (List.append_nil _).symm
  | cons g groups ih => rw [List.foldl_cons, ih, toList_addGroup, List.append_assoc, List.flatMap_cons]

/-- The counter says how many of the records have a counterpart. -/
def Counts (j : Join) : Prop := j.compared = j.records.toList.countP (·.baseline.isSome)

theorem Counts.add {j : Join} (h : j.Counts) (index : Index) (category : String) (test : TestResult) :
    (j.add index category test).Counts := by
  unfold Counts at h ⊢
  rw [toList_add, List.countP_append, ← h]
  unfold Join.add
  cases index.lookup test.name <;> rfl

theorem Counts.foldl_addGroup (index : Index) (groups : List ResultGroup) :
    (groups.foldl (addGroup index) empty).Counts :=
  List.foldlRecOn groups (addGroup index) rfl fun _ hj g _ =>
    List.foldlRecOn g.tests (Join.add index g.category) hj fun _ hj t _ => hj.add index g.category t

end Join

/-- The records of a comparison: every candidate test beside the last baseline test of its
name. -/
theorem records_of (candidate baseline : List ResultGroup) :
    (of candidate (some baseline)).records =
      candidate.flatMap fun g => g.tests.map fun t =>
        beside g.category t (lastNamed? t.name (ResultGroup.allTests baseline)) := by
  refine (Join.toList_foldl_addGroup _ .empty candidate).trans ?_
  simp only [Index.lookup_ofGroups]
  rfl

/-- How many candidate tests were found in the baseline, as the records show it. -/
theorem compared_eq (candidate baseline : List ResultGroup) :
    (of candidate (some baseline)).totals.compared =
      (of candidate (some baseline)).records.countP (·.baseline.isSome) :=
  Join.Counts.foldl_addGroup _ candidate

end Stopwatch.Comparison
