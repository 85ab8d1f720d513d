import Mathlib
import Stopwatch.Statistics
import Stopwatch.Proofs.Decimal.Ranking

/-!
# Order statistics

Two bit patterns with one place in the total order are the same. So however a list of samples is ordered,
sorting it gives the same list, and the figures that are read off the sorted list depend on the samples
alone. This is said of any bit patterns, so of every pattern that is no number, with either sign.

- `sorted_eq_of_perm`: sorting forgets the order of the samples;
- `IsOfRank`: the sample that comes so far in the total order; `isOfRank_sorted`;
- `IsHalfSum`: what a machine has to say of half the sum of two samples;
- `Extent.of_order_statistics`: minimum, maximum and median of any list of samples;
- `Summary.min_mem_and_le`, `max_mem_and_le`, `median_mem_or_half`: the same figures in a summary.
-/

namespace Stopwatch

open Decimal

namespace Statistics

/-! ### The sorted list -/

theorem sorted_perm (xs : List UInt64) : (sorted xs).Perm xs := List.mergeSort_perm ..

@[simp] theorem length_sorted (xs : List UInt64) : (sorted xs).length = xs.length :=
  (sorted_perm xs).length_eq

theorem pairwise_sorted (xs : List UInt64) : (sorted xs).Pairwise (place · ≤ place ·) := by
  refine (List.pairwise_mergeSort ?_ ?_ xs).imp of_decide_eq_true
  · intro a b c hab hbc
    exact decide_eq_true (Int64.le_trans (of_decide_eq_true hab) (of_decide_eq_true hbc))
  · intro a b
    simpa using Int64.le_total (place a) (place b)

/-- **Sorting forgets the order of the samples.** -/
theorem sorted_eq_of_perm {xs ys : List UInt64} (h : xs.Perm ys) : sorted xs = sorted ys :=
  ((sorted_perm xs).trans (h.trans (sorted_perm ys).symm)).eq_of_pairwise
    (fun _ _ _ _ hab hba => place_injective (Int64.le_antisymm hab hba))
    (pairwise_sorted xs) (pairwise_sorted ys)

/-! ### Samples by rank -/

/-- The `k`-th sample in the total order, counted from one: fewer than `k` samples come before it,
and `k` samples or more do not come after it. -/
structure IsOfRank (xs : List UInt64) (k : Nat) (a : UInt64) : Prop where
  mem : a ∈ xs
  before : xs.countP (place · < place a) < k
  upTo : k ≤ xs.countP (place · ≤ place a)

namespace IsOfRank

variable {xs ys : List UInt64} {k : Nat} {a : UInt64}

theorem perm (h : IsOfRank xs k a) (hperm : xs.Perm ys) : IsOfRank ys k a :=
  ⟨hperm.mem_iff.mp h.mem, hperm.countP_eq _ ▸ h.before, hperm.countP_eq _ ▸ h.upTo⟩

/-- The samples that come after it. -/
theorem after_le (h : IsOfRank xs k a) : xs.countP (place a < place ·) ≤ xs.length - k := by
  have hupTo := h.upTo
  have hsplit := xs.length_eq_countP_add_countP fun x => decide (place x ≤ place a)
  simp only [decide_eq_true_eq, Int64.not_le] at hsplit
  omega

/-- None comes before the first. -/
theorem le_of_first (h : IsOfRank xs 1 a) {x : UInt64} (hx : x ∈ xs) : place a ≤ place x := by
  have hnone := List.countP_eq_zero.mp (Nat.lt_one_iff.mp h.before) x hx
  simpa using hnone

/-- None comes after the last. -/
theorem le_of_last (h : IsOfRank xs xs.length a) {x : UInt64} (hx : x ∈ xs) : place x ≤ place a := by
  have hall := List.countP_eq_length.mp (le_antisymm List.countP_le_length h.upTo) x hx
  exact of_decide_eq_true hall

end IsOfRank

/-- What stands behind `k` others in a sorted list has the rank `k + 1`. -/
theorem isOfRank_append_cons {l r : List UInt64} {a : UInt64}
    (h : (l ++ a :: r).Pairwise (place · ≤ place ·)) :
    IsOfRank (l ++ a :: r) (l.length + 1) a := by
  obtain ⟨-, htail, hcross⟩ := List.pairwise_append.mp h
  have hlater := (List.pairwise_cons.mp htail).1
  have hearlier (x : UInt64) (hx : x ∈ l) : place x ≤ place a := hcross x hx a List.mem_cons_self
  refine ⟨by simp, ?_, ?_⟩
  · have hnone : (a :: r).countP (place · < place a) = 0 := by
      rw [List.countP_eq_zero]
      simpa using hlater
    rw [List.countP_append, hnone]
    exact Nat.lt_succ_of_le List.countP_le_length
  · have hall : l.countP (place · ≤ place a) = l.length := by
      rw [List.countP_eq_length]
      simpa using hearlier
    rw [List.countP_append, hall, List.countP_cons_of_pos (by simp)]
    omega

/-- The sample of every rank is found in the sorted list. -/
theorem isOfRank_sorted (xs : List UInt64) {i : Nat} (hi : i < xs.length) :
    IsOfRank xs (i + 1) ((sorted xs).getD i 0) := by
  have hi' : i < (sorted xs).length := by rwa [length_sorted]
  have hsplit : (sorted xs).take i ++ (sorted xs)[i] :: (sorted xs).drop (i + 1) = sorted xs := by
    rw [← List.drop_eq_getElem_cons, List.take_append_drop]
  have hlength : ((sorted xs).take i).length = i := List.length_take_of_le hi'.le
  have hrank := isOfRank_append_cons (hsplit ▸ pairwise_sorted xs)
  rw [hsplit, hlength] at hrank
  rw [List.getD_eq_getElem _ _ hi']
  exact hrank.perm (sorted_perm xs)

namespace Extent

variable (half : UInt64 → UInt64 → UInt64) {xs : List UInt64}

/-- The minimum is the first of the sorted samples. -/
theorem isOfRank_min (hne : xs ≠ []) : IsOfRank xs 1 (Extent.of half xs).min :=
  isOfRank_sorted xs (List.length_pos_iff.mpr hne)

/-- The maximum is the last of the sorted samples. -/
theorem isOfRank_max (hne : xs ≠ []) : IsOfRank xs xs.length (Extent.of half xs).max := by
  have hpos := List.length_pos_iff.mpr hne
  have hlast := isOfRank_sorted xs (i := xs.length - 1) (by omega)
  rw [Nat.sub_add_cancel hpos] at hlast
  unfold Extent.of
  dsimp only
  rwa [length_sorted]

/-- The median of an odd number of samples is the middle one. -/
theorem isOfRank_median (hodd : xs.length % 2 = 1) :
    IsOfRank xs (xs.length / 2 + 1) (Extent.of half xs).median := by
  unfold Extent.of Statistics.median
  dsimp only
  rw [length_sorted, if_neg (by omega)]
  exact isOfRank_sorted xs (by omega)

/-- The median of an even number of samples is half the sum of the middle two. -/
theorem median_of_even (hne : xs ≠ []) (heven : xs.length % 2 = 0) :
    ∃ a b, IsOfRank xs (xs.length / 2) a ∧ IsOfRank xs (xs.length / 2 + 1) b ∧
      (Extent.of half xs).median = half a b := by
  have hpos := List.length_pos_iff.mpr hne
  have hfirst := isOfRank_sorted xs (i := xs.length / 2 - 1) (by omega)
  have hsecond := isOfRank_sorted xs (i := xs.length / 2) (by omega)
  rw [Nat.sub_add_cancel (by omega)] at hfirst
  refine ⟨_, _, hfirst, hsecond, ?_⟩
  unfold Extent.of Statistics.median
  dsimp only
  rw [length_sorted, if_pos heven]

end Extent

/-- A machine tells half the sum of two samples as it is for floats. If that is no number, it may have any
bit pattern that is none. -/
def IsHalfSum (half : UInt64 → UInt64 → UInt64) : Prop :=
  ∀ a b, Float.ofBits (half a b) = (Float.ofBits a + Float.ofBits b) / 2.0

theorem isHalfSum_halfSum : IsHalfSum halfSum := fun _ _ => Float.ofBits_toBits _

end Statistics

namespace Summary

open Statistics

variable {xs : List Float}

theorem ofSamples_of_ne_nil (hne : xs ≠ []) :
    ofSamples xs = ⟨.ofBits (Extent.of halfSum (xs.map Float.toBits)).min,
      .ofBits (Extent.of halfSum (xs.map Float.toBits)).max,
      sum xs / Float.ofNat xs.length, .ofBits (Extent.of halfSum (xs.map Float.toBits)).median,
      Statistics.stddev xs (sum xs / Float.ofNat xs.length), sum xs⟩ := by
  unfold ofSamples
  rw [if_neg (by simpa using hne)]

/-- The bit pattern of a sample leads back to the sample and to its place. -/
theorem ofBits_of_mem {bits : UInt64} (h : bits ∈ xs.map Float.toBits) :
    Float.ofBits bits ∈ xs ∧ rank (.ofBits bits) = (place bits).toInt := by
  obtain ⟨x, hx, rfl⟩ := List.mem_map.mp h
  rw [Float.ofBits_toBits]
  exact ⟨hx, rfl⟩

/-- The minimum is a sample, and no sample comes before it. -/
theorem min_mem_and_le (hne : xs ≠ []) :
    (ofSamples xs).min ∈ xs ∧ ∀ x ∈ xs, rank (ofSamples xs).min ≤ rank x := by
  have hmin := Extent.isOfRank_min halfSum (by simpa using hne : xs.map Float.toBits ≠ [])
  obtain ⟨hmem, hrank⟩ := ofBits_of_mem hmin.mem
  rw [ofSamples_of_ne_nil hne]
  refine ⟨hmem, fun x hx => ?_⟩
  rw [hrank]
  exact Int64.le_iff_toInt_le.mp (hmin.le_of_first (List.mem_map_of_mem hx))

/-- The maximum is a sample, and no sample comes after it. -/
theorem max_mem_and_le (hne : xs ≠ []) :
    (ofSamples xs).max ∈ xs ∧ ∀ x ∈ xs, rank x ≤ rank (ofSamples xs).max := by
  have hmax := Extent.isOfRank_max halfSum (by simpa using hne : xs.map Float.toBits ≠ [])
  obtain ⟨hmem, hrank⟩ := ofBits_of_mem hmax.mem
  rw [ofSamples_of_ne_nil hne]
  refine ⟨hmem, fun x hx => ?_⟩
  rw [hrank]
  exact Int64.le_iff_toInt_le.mp (hmax.le_of_last (List.mem_map_of_mem hx))

/-- The median is a sample or half the sum of two. -/
theorem median_mem_or_half (hne : xs ≠ []) :
    (ofSamples xs).median ∈ xs ∨ ∃ a ∈ xs, ∃ b ∈ xs, (ofSamples xs).median = (a + b) / 2.0 := by
  have hne' : xs.map Float.toBits ≠ [] := by simpa using hne
  rw [ofSamples_of_ne_nil hne]
  obtain heven | hodd := Nat.mod_two_eq_zero_or_one (xs.map Float.toBits).length
  · obtain ⟨a, b, ha, hb, hmedian⟩ := Extent.median_of_even halfSum hne' heven
    refine .inr ⟨_, (ofBits_of_mem ha.mem).1, _, (ofBits_of_mem hb.mem).1, ?_⟩
    dsimp only
    rw [hmedian, isHalfSum_halfSum]
  · exact .inl (ofBits_of_mem (Extent.isOfRank_median halfSum hodd).mem).1

end Summary

namespace Statistics

open Summary

/-- **Minimum, maximum and median depend on the samples and not on their order**, down to their bits. The
minimum and the maximum are samples, and bound all of them in the total order. Of an odd number of samples
the median is one, with no more than half of them on either side; of an even number it is half the sum of
the two samples in the middle. This holds of any bit patterns, and whichever pattern a machine has for a sum
that is no number. The figures of a summary are these. -/
theorem Extent.of_order_statistics (half : UInt64 → UInt64 → UInt64) (hhalf : IsHalfSum half)
    (xs : List UInt64) :
    (∀ ys, xs.Perm ys → Extent.of half ys = Extent.of half xs) ∧
    (xs ≠ [] → (Extent.of half xs).min ∈ xs ∧ (Extent.of half xs).max ∈ xs ∧
      ∀ x ∈ xs, place (Extent.of half xs).min ≤ place x ∧ place x ≤ place (Extent.of half xs).max) ∧
    (xs.length % 2 = 1 → (Extent.of half xs).median ∈ xs ∧
      xs.countP (place · < place (Extent.of half xs).median) ≤ xs.length / 2 ∧
      xs.countP (place (Extent.of half xs).median < place ·) ≤ xs.length / 2) ∧
    (xs ≠ [] → xs.length % 2 = 0 →
      ∃ a b, IsOfRank xs (xs.length / 2) a ∧ IsOfRank xs (xs.length / 2 + 1) b ∧
        (Extent.of half xs).median = half a b ∧
        Float.ofBits (Extent.of half xs).median = (Float.ofBits a + Float.ofBits b) / 2.0) ∧
    ∀ samples : List Float, samples ≠ [] → samples.map Float.toBits = xs →
      (ofSamples samples).min = Float.ofBits (Extent.of halfSum xs).min ∧
        (ofSamples samples).max = Float.ofBits (Extent.of halfSum xs).max ∧
        (ofSamples samples).median = Float.ofBits (Extent.of halfSum xs).median := by
  refine ⟨fun ys h => ?_, fun hne => ?_, fun hodd => ?_, fun hne heven => ?_, fun samples hne hxs => ?_⟩
  · unfold Extent.of
    rw [sorted_eq_of_perm h]
  · have hmin := Extent.isOfRank_min half hne
    have hmax := Extent.isOfRank_max half hne
    exact ⟨hmin.mem, hmax.mem, fun x hx => ⟨hmin.le_of_first hx, hmax.le_of_last hx⟩⟩
  · have hmedian := Extent.isOfRank_median half hodd
    have hbefore := hmedian.before
    have hafter := hmedian.after_le
    exact ⟨hmedian.mem, by omega, by omega⟩
  · obtain ⟨a, b, ha, hb, hmedian⟩ := Extent.median_of_even half hne heven
    exact ⟨a, b, ha, hb, hmedian, by rw [hmedian, hhalf]⟩
  · rw [ofSamples_of_ne_nil hne, hxs]
    exact ⟨rfl, rfl, rfl⟩

/-- Three samples, of which two are no numbers and have different signs, and four with both zeros among
them. -/
theorem Extent.of_order_statistics_of_zeros_and_nan :
    IsHalfSum halfSum ∧
    ((Extent.of halfSum [0x4000000000000000, 0xFFF8000000000000, 0x7FF8000000000000]).median ∈
        [0x4000000000000000, 0xFFF8000000000000, 0x7FF8000000000000] ∧
      Extent.of halfSum [0xFFF8000000000000, 0x7FF8000000000000, 0x4000000000000000] =
        Extent.of halfSum [0x4000000000000000, 0xFFF8000000000000, 0x7FF8000000000000]) ∧
    ((Extent.of halfSum [0, 0x3FF0000000000000, 0x8000000000000000, 0x7FF0000000000000]).min ∈
        [0, 0x3FF0000000000000, 0x8000000000000000, 0x7FF0000000000000] ∧
      ∃ a b, IsOfRank [0, 0x3FF0000000000000, 0x8000000000000000, 0x7FF0000000000000] 2 a ∧
        IsOfRank [0, 0x3FF0000000000000, 0x8000000000000000, 0x7FF0000000000000] 3 b ∧
        Float.ofBits (Extent.of halfSum
          [0, 0x3FF0000000000000, 0x8000000000000000, 0x7FF0000000000000]).median =
          (Float.ofBits a + Float.ofBits b) / 2.0) := by
  have hodd := Extent.of_order_statistics halfSum isHalfSum_halfSum
    [0x4000000000000000, 0xFFF8000000000000, 0x7FF8000000000000]
  have heven := Extent.of_order_statistics halfSum isHalfSum_halfSum
    [0, 0x3FF0000000000000, 0x8000000000000000, 0x7FF0000000000000]
  have hperm : List.Perm [0x4000000000000000, 0xFFF8000000000000, 0x7FF8000000000000]
      [0xFFF8000000000000, 0x7FF8000000000000, (0x4000000000000000 : UInt64)] :=
    (List.Perm.swap _ _ _).trans ((List.Perm.swap _ _ _).cons _)
  obtain ⟨a, b, ha, hb, -, hmedian⟩ := heven.2.2.2.1 (List.cons_ne_nil _ _) rfl
  exact ⟨isHalfSum_halfSum, ⟨(hodd.2.2.1 rfl).1, hodd.1 _ hperm⟩,
    (heven.2.1 (List.cons_ne_nil _ _)).1, a, b, ha, hb, hmedian⟩

end Statistics

end Stopwatch
