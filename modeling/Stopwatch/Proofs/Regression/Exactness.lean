import Stopwatch.Proofs.Regression.Detection

/-!
# Which tests have regressed

A test is judged by its *reference*: the last usable test of the baseline that has its name, in
whatever category. Tests that are not usable neither regress nor serve as a reference, so they
never hide an earlier one. What is detected is one entry for each test that exceeds its
reference, in the order of the tests.

- `TestResult.Usable`, `IsReference`, `Exceeds`: the rule, said without the code;
- `Reports`: what the entry of a test says;
- `detect_exact`: the rule holds for all results, baselines and thresholds.
-/

namespace Stopwatch

/-- Something was measured and the mean is positive. -/
def TestResult.Usable (t : TestResult) : Prop :=
  (t.samples ≠ [] ∨ t.iterations ≠ 0) ∧ 0.0 < t.stats.mean

instance (t : TestResult) : Decidable t.Usable := inferInstanceAs (Decidable (_ ∧ _))

theorem TestResult.isUsable_iff {t : TestResult} : t.isUsable = true ↔ t.Usable := by
  unfold isUsable isEmpty Usable
  rw [Bool.and_eq_true, decide_eq_true_iff, Bool.not_eq_true', Bool.and_eq_false_iff,
    List.isEmpty_eq_false_iff, beq_eq_false_iff_ne]

namespace Regression

open Stopwatch.Comparison (IsLast getLast?_filter_eq_some_iff lastNamed? placed)

/-- The test that a name is judged by: the last usable one of the baseline that has it. -/
def IsReference (baseline : List ResultGroup) (name : String) (base : TestResult) : Prop :=
  IsLast (fun t => t.Usable ∧ t.name = name) (ResultGroup.allTests baseline) base

/-- A usable test whose mean exceeds that of its reference by more than the threshold. -/
def Exceeds (baseline : List ResultGroup) (threshold : Float) (t : TestResult) : Prop :=
  t.Usable ∧ ∃ base, IsReference baseline t.name base ∧
    base.stats.mean * (1.0 + threshold / 100.0) < t.stats.mean

/-- What the entry of a test of some category says. -/
structure Reports (baseline : List ResultGroup) (category : String) (t : TestResult)
    (r : Regression) : Prop where
  category : r.category = category
  name : r.name = t.name
  currentMean : r.currentMean = t.stats.mean
  baselineMean : ∃ base, IsReference baseline t.name base ∧ r.baselineMean = base.stats.mean
  percentChange : r.percentChange = (r.currentMean - r.baselineMean) / r.baselineMean * 100.0

/-! ### References -/

theorem lastNamed?_usableTests {baseline : List ResultGroup} {name : String}
    {base : TestResult} :
    lastNamed? name (usableTests baseline) = some base ↔ IsReference baseline name base := by
  unfold lastNamed? usableTests IsReference
  rw [List.filter_filter, getLast?_filter_eq_some_iff]
  simp only [Bool.and_eq_true, beq_iff_eq, TestResult.isUsable_iff, and_comm]

/-- What a name finds is the mean of its reference. -/
theorem lookup_meansOf_eq_some_iff {baseline : List ResultGroup} {name : String}
    {mean : Float} :
    (meansOf baseline).lookup name = some mean ↔
      ∃ base, IsReference baseline name base ∧ mean = base.stats.mean := by
  rw [lookup_meansOf, Option.map_eq_some_iff]
  refine exists_congr fun base => ?_
  rw [lastNamed?_usableTests, eq_comm (a := mean)]

/-- Only usable tests of a baseline count. -/
theorem detect_congr {baseline baseline' : List ResultGroup}
    (h : usableTests baseline = usableTests baseline') (current : List ResultGroup)
    (threshold : Float) : detect current baseline threshold = detect current baseline' threshold := by
  have hmeans : meansOf baseline = meansOf baseline' := by
    unfold usableTests at h
    rw [meansOf, meansOf, h]
  rw [detect, detect, hmeans]

/-- A test that is not usable may be dropped from any place in a baseline. -/
theorem usableTests_of_unusable (before after : List ResultGroup) (category : String)
    (tests tests' : List TestResult) {t : TestResult} (ht : ¬t.Usable) :
    usableTests (before ++ ⟨category, tests ++ t :: tests'⟩ :: after) =
      usableTests (before ++ ⟨category, tests ++ tests'⟩ :: after) := by
  have hunusable : ¬t.isUsable = true := fun h => ht (TestResult.isUsable_iff.mp h)
  unfold usableTests ResultGroup.allTests
  simp only [List.flatMap_append, List.flatMap_cons, List.filter_append,
    List.filter_cons_of_neg hunusable]

/-! ### Entries -/

section
variable {baseline : List ResultGroup} {threshold : Float}

/-- The entry of a test that is judged by a mean, if it has regressed. -/
def regressionOf? (baseline : List ResultGroup) (threshold : Float) (p : String × TestResult) :
    Option Regression :=
  if p.2.isUsable then ofTest? (meansOf baseline) (1.0 + threshold / 100.0) p.1 p.2 else none

theorem detect_eq_filterMap (current : List ResultGroup) :
    detect current baseline threshold =
      (placed current).filterMap (regressionOf? baseline threshold) := by
  unfold detect placed
  rw [List.filterMap_flatMap]
  refine congrArg (List.flatMap · current) (funext fun g => ?_)
  rw [List.filterMap_filter, List.filterMap_map]
  rfl

/-- A test that exceeds its reference has an entry. -/
theorem regressionOf?_of_exceeds {p : String × TestResult} (h : Exceeds baseline threshold p.2) :
    ∃ r, regressionOf? baseline threshold p = some r ∧ Reports baseline p.1 p.2 r := by
  obtain ⟨husable, base, hbase, hlt⟩ := h
  have hfound := lookup_meansOf_eq_some_iff.mpr ⟨base, hbase, rfl⟩
  have hentry : regressionOf? baseline threshold p = some ⟨p.1, p.2.name, base.stats.mean,
      p.2.stats.mean, (p.2.stats.mean - base.stats.mean) / base.stats.mean * 100.0⟩ := by
    unfold regressionOf? ofTest?
    rw [if_pos (TestResult.isUsable_iff.mpr husable), hfound]
    exact if_pos hlt
  exact ⟨_, hentry, rfl, rfl, rfl, ⟨base, hbase, rfl⟩, rfl⟩

/-- Any other test has none. -/
theorem regressionOf?_of_not_exceeds {p : String × TestResult}
    (h : ¬Exceeds baseline threshold p.2) : regressionOf? baseline threshold p = none := by
  unfold regressionOf? ofTest?
  split
  · rename_i husable
    cases hfound : (meansOf baseline).lookup p.2.name with
    | none => rfl
    | some mean =>
      obtain ⟨base, hbase, rfl⟩ := lookup_meansOf_eq_some_iff.mp hfound
      exact if_neg fun hlt => h ⟨TestResult.isUsable_iff.mp husable, base, hbase, hlt⟩
  · rfl

/-- Whether a test exceeds its reference is seen from its entry. -/
theorem isSome_regressionOf?_iff {p : String × TestResult} :
    (regressionOf? baseline threshold p).isSome = true ↔ Exceeds baseline threshold p.2 := by
  constructor
  · intro h
    by_contra hnot
    rw [regressionOf?_of_not_exceeds hnot] at h
    cases h
  · intro h
    obtain ⟨r, hr, _⟩ := regressionOf?_of_exceeds (p := p) h
    rw [hr]
    rfl

instance (baseline : List ResultGroup) (threshold : Float) (t : TestResult) :
    Decidable (Exceeds baseline threshold t) :=
  decidable_of_iff ((regressionOf? baseline threshold ("", t)).isSome = true)
    isSome_regressionOf?_iff

end

/-- Keeping some elements of a list, or turning each of these into something related to it. -/
theorem forall₂_filter_filterMap {α β : Type} {R : α → β → Prop} {p : α → Bool}
    {f : α → Option β} (hsome : ∀ a, p a = true → ∃ b, f a = some b ∧ R a b)
    (hnone : ∀ a, p a = false → f a = none) (l : List α) :
    List.Forall₂ R (l.filter p) (l.filterMap f) := by
  induction l with
  | nil => exact .nil
  | cons a l ih =>
    cases ha : p a with
    | true =>
      obtain ⟨b, hb, hab⟩ := hsome a ha
      rw [List.filter_cons_of_pos ha, List.filterMap_cons_some hb]
      exact .cons hab ih
    | false =>
      rw [List.filter_cons_of_neg (by rw [ha]; exact Bool.false_ne_true),
        List.filterMap_cons_none (hnone a ha)]
      exact ih

/-- **Exactly the tests that exceed their reference are detected**, each once, in order, with
what it has been judged by; and a test of the baseline that is not usable makes no
difference, wherever it stands. -/
theorem detect_exact (current baseline : List ResultGroup) (threshold : Float) :
    List.Forall₂ (fun p r => Reports baseline p.1 p.2 r)
        ((placed current).filter fun p => decide (Exceeds baseline threshold p.2))
        (detect current baseline threshold) ∧
      ∀ before after category tests tests' (t : TestResult),
        baseline = before ++ ⟨category, tests ++ t :: tests'⟩ :: after → ¬t.Usable →
          detect current baseline threshold =
            detect current (before ++ ⟨category, tests ++ tests'⟩ :: after) threshold := by
  constructor
  · rw [detect_eq_filterMap]
    refine forall₂_filter_filterMap (fun p hp => ?_) (fun p hp => ?_) _
    · exact regressionOf?_of_exceeds (of_decide_eq_true hp)
    · exact regressionOf?_of_not_exceeds (of_decide_eq_false hp)
  · rintro before after category tests tests' t rfl ht
    exact detect_congr (usableTests_of_unusable before after category tests tests' ht) _ _

/-- A test with one sample. -/
def once (x : Float) : TestResult := ⟨"x", 1, 0, ⟨x, x, x, x, 0.0, x⟩, [x], none, none⟩

/-- The later entry of the baseline is of a mean of zero, and hides nothing. -/
theorem detect_exact_hidden :
    ¬(once 0.0).Usable ∧
      (detect [⟨"A", [once 2.0]⟩] [⟨"B", [once 1.0, once 0.0]⟩] 10.0).length = 1 ∧
      detect [⟨"A", [once 2.0]⟩] [⟨"B", [once 1.0, once 0.0]⟩] 10.0 =
        detect [⟨"A", [once 2.0]⟩] [⟨"B", [once 1.0]⟩] 10.0 := by
  have hzero : ¬(once 0.0).Usable := by decide
  obtain ⟨hentries, hhidden⟩ :=
    detect_exact [⟨"A", [once 2.0]⟩] [⟨"B", [once 1.0, once 0.0]⟩] 10.0
  have hcount : ((placed [⟨"A", [once 2.0]⟩]).filter fun p =>
      decide (Exceeds [⟨"B", [once 1.0, once 0.0]⟩] 10.0 p.2)).length = 1 := by
    decide +kernel
  exact ⟨hzero, hentries.length_eq.symm.trans hcount,
    hhidden [] [] "B" [once 1.0] [] (once 0.0) rfl hzero⟩

end Regression

end Stopwatch
