import Mathlib.Data.List.Nodup
import Stopwatch.Proofs.Comparison.Join
import Stopwatch.Proofs.Decimal.Rounding
import Stopwatch.Regression

/-!
# Detecting regressions

A name finds the mean of the last usable test of the baseline that has it. A test is no
regression against its own mean, whatever the threshold: the mean is multiplied by a factor
of at least one, and that does not make it smaller.

- `lookup_meansOf`: what a name finds;
- `detect_eq_nil_iff`: when nothing has regressed;
- `detect_self`: nothing regresses against itself.
-/

namespace Stopwatch.Regression

open Stopwatch.Comparison (lastNamed? lastNamed?_cons lastNamed?_eq_none_iff
  lastNamed?_eq_some_iff lookup_replace)
open Stopwatch.Decimal

/-- The tests of some groups that something can be said about. -/
def usableTests (groups : List ResultGroup) : List TestResult :=
  (ResultGroup.allTests groups).filter TestResult.isUsable

theorem lookup_foldl (name : String) (tests : List TestResult) (means : List (String × Float)) :
    (tests.foldl (fun means t => (t.name, t.stats.mean) :: means.filter (·.1 != t.name))
        means).lookup name =
      ((lastNamed? name tests).map (·.stats.mean)).or (means.lookup name) := by
  induction tests generalizing means with
  | nil => rfl
  | cons test rest ih =>
    rw [List.foldl_cons, ih, lookup_replace, lastNamed?_cons, Option.map_or, Option.or_assoc]
    split <;> rfl

/-- A name finds the mean of the last usable test that has it. -/
theorem lookup_meansOf (baseline : List ResultGroup) (name : String) :
    (meansOf baseline).lookup name =
      (lastNamed? name (usableTests baseline)).map (·.stats.mean) := by
  unfold meansOf
  rw [lookup_foldl, List.lookup_nil, Option.or_none]
  rfl

/-- Nothing has regressed if no usable test exceeds what its name finds. -/
theorem detect_eq_nil {current baseline : List ResultGroup} {threshold : Float}
    (h : ∀ t ∈ usableTests current, ∀ base ∈ (meansOf baseline).lookup t.name,
      ¬base * (1.0 + threshold / 100.0) < t.stats.mean) :
    detect current baseline threshold = [] := by
  unfold detect
  rw [List.flatMap_eq_nil_iff]
  intro g hg
  rw [List.filterMap_eq_nil_iff]
  intro t ht
  obtain ⟨hmem, husable⟩ := List.mem_filter.mp ht
  have htests : t ∈ usableTests current :=
    List.mem_filter.mpr ⟨List.mem_flatMap.mpr ⟨g, hg, hmem⟩, husable⟩
  unfold ofTest?
  cases hbase : (meansOf baseline).lookup t.name with
  | none => rfl
  | some base => exact if_neg (h t htests base hbase)

/-- With distinct names, every usable test finds itself. -/
theorem lookup_meansOf_self {groups : List ResultGroup}
    (hnames : ((usableTests groups).map TestResult.name).Nodup) {t : TestResult}
    (ht : t ∈ usableTests groups) : (meansOf groups).lookup t.name = some t.stats.mean := by
  rw [lookup_meansOf]
  cases hlast : lastNamed? t.name (usableTests groups) with
  | none => exact absurd rfl (lastNamed?_eq_none_iff.mp hlast t ht)
  | some u =>
    have hfound := lastNamed?_eq_some_iff.mp hlast
    obtain ⟨_, _, _, hname, _⟩ := id hfound
    obtain rfl := List.inj_on_of_nodup_map hnames hfound.mem ht hname
    rfl

/-- A threshold that is not negative gives a factor of at least one. -/
theorem one_le_factor {threshold : Float} (h : 0.0 ≤ threshold) :
    1.0 ≤ 1.0 + threshold / 100.0 :=
  one_le_one_add (nonneg_div h (by decide) (by decide))

/-- **Nothing regresses against itself.** -/
theorem detect_self {groups : List ResultGroup}
    (hnames : ((usableTests groups).map TestResult.name).Nodup) {threshold : Float}
    (h : 0.0 ≤ threshold) : detect groups groups threshold = [] := by
  refine detect_eq_nil fun t ht base hbase => ?_
  rw [lookup_meansOf_self hnames ht] at hbase
  obtain rfl := Option.some.inj hbase
  have husable := (List.mem_filter.mp ht).2
  have hpos : 0.0 < t.stats.mean := by
    unfold TestResult.isUsable at husable
    exact of_decide_eq_true (Bool.and_eq_true_iff.mp husable).2
  exact not_mul_lt hpos (one_le_factor h)

end Stopwatch.Regression
