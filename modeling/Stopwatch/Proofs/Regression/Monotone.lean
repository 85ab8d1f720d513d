import Mathlib
import Stopwatch.Proofs.Decimal.Extent
import Stopwatch.Proofs.Regression.Exactness

/-!
# What makes fewer tests regress

A larger threshold lets fewer tests regress, and so do larger means in the baseline and smaller
means among the current tests. A mean in the baseline that grows stays usable, so the same test
remains the reference of its name; if it is not the reference, it makes no difference.

- `Raised`, `Lowered`: a test with another mean; `EachTest`: results with such tests;
- `entryAt?`: the entry of the test in some place;
- `exceeds_mono`: the rule that judges a single test is monotone in all that it depends on;
- `detect_monotone`: so is what is detected.
-/

namespace Stopwatch.Regression

open Stopwatch.Comparison (IsLast placed)
open Stopwatch.Decimal

/-! ### Other means -/

/-- A test with another mean. -/
def withMean (t : TestResult) (mean : Float) : TestResult :=
  { t with stats := { t.stats with mean } }

/-- A test whose mean has grown, if it is usable, or the test itself. -/
def Raised (t t' : TestResult) : Prop :=
  t' = t ∨ t.Usable ∧ ∃ mean, t.stats.mean ≤ mean ∧ t' = withMean t mean

/-- A test whose mean has shrunk and is still positive, if it is usable, or the test itself. -/
def Lowered (t t' : TestResult) : Prop :=
  t' = t ∨ t.Usable ∧ ∃ mean, 0.0 < mean ∧ mean ≤ t.stats.mean ∧ t' = withMean t mean

/-- Results of the same categories, with tests that are related one by one. -/
def EachTest (R : TestResult → TestResult → Prop) : List ResultGroup → List ResultGroup → Prop :=
  List.Forall₂ fun g g' => g'.category = g.category ∧ List.Forall₂ R g.tests g'.tests

/-- The entry of the test in some place among the current tests, if it has regressed. -/
def entryAt? (current baseline : List ResultGroup) (threshold : Float) (place : Nat) :
    Option Regression :=
  (placed current)[place]?.bind (regressionOf? baseline threshold)

theorem filterMap_getElem?_range {α : Type} (xs : List α) :
    (List.range xs.length).filterMap (xs[·]?) = xs := by
  induction xs with
  | nil => rfl
  | cons x xs ih =>
    rw [List.length_cons, List.range_succ_eq_map, List.filterMap_cons_some List.getElem?_cons_zero,
      List.filterMap_map]
    exact congrArg (x :: ·) ih

/-- What is detected are the entries of all places, in order. -/
theorem detect_eq_entries (current baseline : List ResultGroup) (threshold : Float) :
    detect current baseline threshold =
      (List.range (placed current).length).filterMap (entryAt? current baseline threshold) := by
  rw [detect_eq_filterMap]
  conv_lhs => rw [← filterMap_getElem?_range (placed current)]
  rw [List.filterMap_filterMap]
  rfl

/-! ### References -/

section
variable {t t' : TestResult}

theorem Raised.usable_iff (h : Raised t t') : t'.Usable ↔ t.Usable := by
  obtain rfl | ⟨husable, mean, hmean, rfl⟩ := h
  · rfl
  · exact iff_of_true ⟨husable.1, pos_of_le husable.2 hmean⟩ husable

theorem Raised.name_eq (h : Raised t t') : t'.name = t.name := by
  obtain rfl | ⟨-, mean, -, rfl⟩ := h <;> rfl

theorem le_self_of_usable (h : t.Usable) : t.stats.mean ≤ t.stats.mean := by
  have hmean := nonneg_of_pos h.2
  exact (le_iff_extent hmean hmean).mpr le_rfl

theorem Raised.mean_le (h : Raised t t') (husable : t.Usable) : t.stats.mean ≤ t'.stats.mean := by
  obtain rfl | ⟨-, mean, hmean, rfl⟩ := h
  · exact le_self_of_usable husable
  · exact hmean

theorem Lowered.name_eq (h : Lowered t t') : t'.name = t.name := by
  obtain rfl | ⟨-, mean, -, -, rfl⟩ := h <;> rfl

theorem Lowered.usable (h : Lowered t t') (husable : t'.Usable) :
    t.Usable ∧ t'.stats.mean ≤ t.stats.mean := by
  obtain rfl | ⟨husable', mean, -, hmean, rfl⟩ := h
  · exact ⟨husable, le_self_of_usable husable⟩
  · exact ⟨husable', hmean⟩

end

theorem EachTest.allTests {R : TestResult → TestResult → Prop} {groups groups' : List ResultGroup}
    (h : EachTest R groups groups') :
    List.Forall₂ R (ResultGroup.allTests groups) (ResultGroup.allTests groups') := by
  unfold ResultGroup.allTests
  exact List.rel_flatMap h fun _ _ hgroup => hgroup.2

theorem EachTest.placed {R : TestResult → TestResult → Prop} {groups groups' : List ResultGroup}
    (h : EachTest R groups groups') :
    List.Forall₂ (fun p p' => p'.1 = p.1 ∧ R p.2 p'.2) (placed groups) (placed groups') := by
  unfold Comparison.placed
  refine List.rel_flatMap h fun g g' ⟨hcategory, htests⟩ => List.rel_map (fun t t' ht => ?_) htests
  exact ⟨hcategory, ht⟩

/-- What is in some place of a list is related to what is in that place of another one. -/
theorem exists_getElem?_of_forall₂ {α β : Type} {R : α → β → Prop} {xs : List α} {ys : List β}
    (h : List.Forall₂ R xs ys) {place : Nat} {x : α} (hx : xs[place]? = some x) :
    ∃ y, ys[place]? = some y ∧ R x y := by
  induction h generalizing place with
  | nil => cases hx
  | cons hxy _ ih =>
    cases place with
    | zero =>
      obtain rfl := Option.some.inj hx
      exact ⟨_, rfl, hxy⟩
    | succ place => exact ih hx

/-- The last element of a list is related to that of another, if the lists are related one by one. -/
theorem isLast_of_forall₂ {α : Type} {R : α → α → Prop} {p : α → Prop} {xs ys : List α} {y : α}
    (h : List.Forall₂ R xs ys) (hp : ∀ a b, R a b → (p b ↔ p a)) (hy : IsLast p ys y) :
    ∃ x, IsLast p xs x ∧ R x y := by
  obtain ⟨before, after, rfl, hpy, hafter⟩ := hy
  induction before generalizing xs with
  | nil =>
    cases h with
    | @cons x _ xs _ hxy hrest =>
      refine ⟨x, ⟨[], xs, rfl, (hp x y hxy).mp hpy, fun a ha hpa => ?_⟩, hxy⟩
      obtain ⟨place, hplace⟩ := List.mem_iff_getElem?.mp ha
      obtain ⟨b, hb, hab⟩ := exists_getElem?_of_forall₂ hrest hplace
      exact hafter b (List.mem_of_getElem? hb) ((hp a b hab).mpr hpa)
  | cons b before ih =>
    cases h with
    | @cons a _ xs _ hab hrest =>
      obtain ⟨x, ⟨front, rest, rfl, hpx, hrest⟩, hxy⟩ := ih hrest
      exact ⟨x, ⟨a :: front, rest, rfl, hpx, hrest⟩, hxy⟩

/-- The reference of a name in a raised baseline comes from that in the baseline. -/
theorem IsReference.of_raised {baseline baseline' : List ResultGroup} {name : String}
    {base' : TestResult} (h : EachTest Raised baseline baseline')
    (hbase : IsReference baseline' name base') :
    ∃ base, IsReference baseline name base ∧ base.Usable ∧ base.stats.mean ≤ base'.stats.mean := by
  obtain ⟨base, hlast, hraised⟩ := isLast_of_forall₂ h.allTests
    (fun t t' ht => and_congr ht.usable_iff (by rw [ht.name_eq])) hbase
  obtain ⟨-, -, -, ⟨husable, -⟩, -⟩ := id hlast
  exact ⟨base, hlast, husable, hraised.mean_le husable⟩

/-! ### Entries -/

/-- **The rule that judges a test is monotone** in the threshold, in the baseline and in the test. -/
theorem exceeds_mono {baseline baseline' : List ResultGroup} {s t : Float} {test test' : TestResult}
    (hs : 0.0 ≤ s) (hst : s ≤ t) (hbaseline : EachTest Raised baseline baseline')
    (htest : Lowered test test') (h : Exceeds baseline' t test') : Exceeds baseline s test := by
  obtain ⟨husable', base', hbase', hlt⟩ := h
  obtain ⟨base, hbase, hpositive, hmean⟩ := IsReference.of_raised hbaseline hbase'
  obtain ⟨husable, hlowered⟩ := htest.usable husable'
  have hfactor := one_le_factor hs
  have hfactors : 1.0 + s / 100.0 ≤ 1.0 + t / 100.0 :=
    one_add_div_mono hs hst (by decide) (by decide)
  have hproduct := nonneg_mul_of_one_le hpositive.2 hfactor
  have hproducts := mul_mono_of_one_le hpositive.2 hmean hfactor hfactors
  have hmean' := nonneg_of_pos husable'.2
  -- baseline · factor ≤ raised baseline · larger factor < lowered mean ≤ mean
  refine ⟨husable, base, by rwa [htest.name_eq] at hbase, ?_⟩
  exact lt_of_lt_of_le hproduct hmean' (lt_of_le_of_lt hproduct hmean' hproducts hlt) hlowered

/-- What an entry says is determined by the test and the baseline, whatever the threshold. -/
theorem Reports.unique {baseline : List ResultGroup} {category : String} {t : TestResult}
    {r r' : Regression} (h : Reports baseline category t r) (h' : Reports baseline category t r') :
    r = r' := by
  obtain ⟨base, hbase, hmean⟩ := h.baselineMean
  obtain ⟨base', hbase', hmean'⟩ := h'.baselineMean
  have hfound := lookup_meansOf_eq_some_iff.mpr ⟨base, hbase, rfl⟩
  have hfound' := lookup_meansOf_eq_some_iff.mpr ⟨base', hbase', rfl⟩
  have hbaseline : r.baselineMean = r'.baselineMean := by
    rw [hmean, hmean', Option.some.inj (hfound.symm.trans hfound')]
  have hcurrent : r.currentMean = r'.currentMean := h.currentMean.trans h'.currentMean.symm
  have hpercent : r.percentChange = r'.percentChange := by
    rw [h.percentChange, h'.percentChange, hbaseline, hcurrent]
  obtain ⟨category, name, baselineMean, currentMean, percentChange⟩ := r
  obtain ⟨category', name', baselineMean', currentMean', percentChange'⟩ := r'
  obtain rfl : category = category' := h.category.trans h'.category.symm
  obtain rfl : name = name' := h.name.trans h'.name.symm
  obtain rfl : baselineMean = baselineMean' := hbaseline
  obtain rfl : currentMean = currentMean' := hcurrent
  obtain rfl : percentChange = percentChange' := hpercent
  rfl

theorem EachTest.refl {R : TestResult → TestResult → Prop} (hR : ∀ t, R t t)
    (groups : List ResultGroup) : EachTest R groups groups :=
  List.forall₂_same.mpr fun _ _ => ⟨rfl, List.forall₂_same.mpr fun t _ => hR t⟩

/-- With a smaller threshold, an entry stays as it is. -/
theorem regressionOf?_of_le {baseline : List ResultGroup} {s t : Float} {p : String × TestResult}
    {r : Regression} (hs : 0.0 ≤ s) (hst : s ≤ t) (h : regressionOf? baseline t p = some r) :
    regressionOf? baseline s p = some r := by
  have hexceeds := isSome_regressionOf?_iff.mp (Option.isSome_of_eq_some h)
  obtain ⟨r₁, hr₁, hreports⟩ := regressionOf?_of_exceeds hexceeds
  obtain rfl := Option.some.inj (h.symm.trans hr₁)
  obtain ⟨r₂, hr₂, hreports'⟩ := regressionOf?_of_exceeds
    (exceeds_mono hs hst (.refl (fun _ => .inl rfl) baseline) (.inl rfl) hexceeds)
  rw [hr₂, hreports.unique hreports']

/-- Taking an element wherever another rule takes the same one. -/
theorem filterMap_sublist {α β : Type} {f g : α → Option β}
    (h : ∀ a b, f a = some b → g a = some b) (xs : List α) :
    (xs.filterMap f).Sublist (xs.filterMap g) := by
  induction xs with
  | nil => exact .slnil
  | cons x xs ih =>
    cases hf : f x with
    | none =>
      rw [List.filterMap_cons_none hf]
      exact ih.trans ((List.sublist_cons_self x xs).filterMap g)
    | some b =>
      rw [List.filterMap_cons_some hf, List.filterMap_cons_some (h x b hf)]
      exact ih.cons_cons b

/-- **The gate is monotone**: what is detected with a larger threshold is detected with a smaller one,
in the same order. Larger means in the baseline and smaller means among the current tests add no
place to those of the tests that have regressed. -/
theorem detect_monotone (current baseline : List ResultGroup) :
    (∀ s t, 0.0 ≤ s → s ≤ t →
      (detect current baseline t).Sublist (detect current baseline s)) ∧
    (∀ threshold, detect current baseline threshold =
      (List.range (placed current).length).filterMap (entryAt? current baseline threshold)) ∧
    ∀ current' baseline' threshold, 0.0 ≤ threshold → EachTest Lowered current current' →
      EachTest Raised baseline baseline' →
      ∀ place, (entryAt? current' baseline' threshold place).isSome →
        (entryAt? current baseline threshold place).isSome := by
  refine ⟨fun s t hs hst => ?_, detect_eq_entries current baseline,
    fun current' baseline' threshold hthreshold hcurrent hbaseline place hentry => ?_⟩
  · rw [detect_eq_filterMap, detect_eq_filterMap]
    exact filterMap_sublist (fun p r => regressionOf?_of_le hs hst) _
  · obtain ⟨r, hentry⟩ := Option.isSome_iff_exists.mp hentry
    obtain ⟨p', hplace, hentry⟩ := Option.bind_eq_some_iff.mp hentry
    obtain ⟨p, hplace', -, htest⟩ := exists_getElem?_of_forall₂ hcurrent.placed.flip hplace
    have hexceeds := isSome_regressionOf?_iff.mp (Option.isSome_of_eq_some hentry)
    have hself : threshold ≤ threshold := (le_iff_extent hthreshold hthreshold).mpr le_rfl
    rw [entryAt?, hplace', Option.bind_some, isSome_regressionOf?_iff]
    exact exceeds_mono hthreshold hself hbaseline htest hexceeds

/-- Two tests, of one sample each. -/
def pair (x y : Float) : List ResultGroup :=
  [⟨"A", [{ once x with name := "x" }, { once y with name := "y" }]⟩]

/-- The second test has not regressed, and does not once the means of the first one have moved. -/
theorem detect_monotone_pair :
    (0.0 : Float) ≤ 10.0 ∧ (10.0 : Float) ≤ 50.0 ∧
      (detect (pair 3.0 2.0) (pair 2.0 2.0) 50.0).Sublist
        (detect (pair 3.0 2.0) (pair 2.0 2.0) 10.0) ∧
      entryAt? [⟨"A", [withMean { once 3.0 with name := "x" } 2.5, { once 2.0 with name := "y" }]⟩]
        [⟨"A", [withMean { once 2.0 with name := "x" } 4.0, { once 2.0 with name := "y" }]⟩]
        10.0 1 = none := by
  obtain ⟨hsublist, -, hplaces⟩ := detect_monotone (pair 3.0 2.0) (pair 2.0 2.0)
  refine ⟨by decide, by decide, hsublist 10.0 50.0 (by decide) (by decide), ?_⟩
  have hlowered : EachTest Lowered (pair 3.0 2.0)
      [⟨"A", [withMean { once 3.0 with name := "x" } 2.5, { once 2.0 with name := "y" }]⟩] :=
    .cons ⟨rfl, .cons (.inr ⟨by decide, 2.5, by decide, by decide, rfl⟩) (.cons (.inl rfl) .nil)⟩ .nil
  have hraised : EachTest Raised (pair 2.0 2.0)
      [⟨"A", [withMean { once 2.0 with name := "x" } 4.0, { once 2.0 with name := "y" }]⟩] :=
    .cons ⟨rfl, .cons (.inr ⟨by decide, 4.0, by decide, rfl⟩) (.cons (.inl rfl) .nil)⟩ .nil
  have hbefore : entryAt? (pair 3.0 2.0) (pair 2.0 2.0) 10.0 1 = none := by decide +kernel
  have hafter := hplaces _ _ 10.0 (by decide) hlowered hraised 1
  rw [hbefore] at hafter
  exact Option.not_isSome_iff_eq_none.mp fun h => Bool.false_ne_true (hafter h)

end Stopwatch.Regression
