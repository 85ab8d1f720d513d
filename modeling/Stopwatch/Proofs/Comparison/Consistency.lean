import Mathlib
import Stopwatch.Proofs.Comparison.Join
import Stopwatch.Proofs.Decimal.Relative
import Stopwatch.Report.Verdict

/-!
# What a record tells of two means

A record says in four ways who was faster: by a label, a percentage, a factor and, through a
verdict, a badge. They are computed apart, each with its own rounding, from the means of a test
and of its counterpart. They agree with the order of the means, and so with each other, unless
both means are zero, which is the mean of a test without samples, or one is minus zero.

- `Agree`: label, percentage, factor and verdict tell the order of two means;
- `agree_of_compare`: they do if the percentage compares to zero as the means to each other;
- `agree_iff`: for which means they do;
- `records_agree_iff`: the same of the records of a comparison;
- `not_agree_without_samples`: two tests without samples.
-/

namespace Stopwatch.Comparison

open Decimal (percent isFinite lt_iff gt_iff le_iff beq_iff)
open Float.Model (Format UnpackedFloat)
open Float.Model.UnpackedFloat

/-- A mean that is finite and not negative. -/
def IsMean (x : Float) : Prop := isFinite x = true ∧ 0.0 ≤ x

instance (x : Float) : Decidable (IsMean x) := inferInstanceAs (Decidable (_ ∧ _))

/-- What a label, a percentage and a factor should tell of two means, and what the verdict
should be that follows. -/
structure Agree (candidate baseline : Float) (side : Side) (percentDiff speedup : Float) :
    Prop where
  faster : side = .candidate ↔ candidate < baseline
  below : percentDiff < 0.0 ↔ candidate < baseline
  same : (percentDiff == 0.0) = true ↔ (candidate == baseline) = true
  above : 0.0 < percentDiff ↔ baseline < candidate
  speedup : 1.0 ≤ speedup
  verdict : Verdict.of side percentDiff = .faster ↔ candidate < baseline
  tie : (candidate == baseline) = true → Verdict.of side percentDiff = .similar

/-- A record has all three figures, and they agree with two means. -/
def Record.Agrees (r : Record) (candidate baseline : Float) : Prop :=
  ∃ faster percentDiff speedup, r.faster = some faster ∧ r.percentDiff = some percentDiff ∧
    r.speedup = some speedup ∧ Agree candidate baseline faster percentDiff speedup

/-- Neither number is minus zero, and they are not both zero. -/
def Told (candidate baseline : Float) : Prop :=
  candidate ≠ -0.0 ∧ baseline ≠ -0.0 ∧ ¬(candidate = 0.0 ∧ baseline = 0.0)

instance (candidate baseline : Float) : Decidable (Told candidate baseline) :=
  inferInstanceAs (Decidable (_ ∧ _ ∧ _))

/-! ### Figures that agree -/

theorem faster_eq_candidate_iff {ratio : Float} :
    Side.faster ratio = .candidate ↔ ratio < 1.0 := by
  unfold Side.faster
  split
  · rename_i h
    exact ⟨fun _ => h, fun _ => rfl⟩
  · rename_i h
    exact ⟨nofun, fun h' => absurd h' h⟩

theorem verdict_eq_faster_iff {faster : Side} {percentDiff : Float} :
    Verdict.of faster percentDiff = .faster ↔ faster = .candidate := by
  cases faster with
  | candidate => exact ⟨fun _ => rfl, fun _ => rfl⟩
  | baseline =>
    show (if percentDiff.abs < Verdict.similarBelow then Verdict.similar else .slower) = _ ↔ _
    split <;> exact ⟨nofun, nofun⟩

/-- A percentage that compares to zero as the means to each other, and a ratio that is below
one exactly if the first of them is smaller, make the figures agree. -/
theorem agree_of_compare {c b ratio percentDiff : Float} {o : Ordering}
    (hmeans : c.toModel.unpack.compare b.toModel.unpack = some o)
    (hpercent : percentDiff.toModel.unpack.compare (0.0 : Float).toModel.unpack = some o)
    (hratio : ratio < 1.0 ↔ o = .lt) (hspeedup : 1.0 ≤ speedupFactor ratio)
    (htie : o = .eq → percentDiff.abs < Verdict.similarBelow) :
    Agree c b (.faster ratio) percentDiff (speedupFactor ratio) := by
  have hlt : c < b ↔ o = .lt := by rw [lt_iff, hmeans, Option.some.injEq]
  have hgt : b < c ↔ o = .gt := by rw [gt_iff, hmeans, Option.some.injEq]
  have heq : (c == b) = true ↔ o = .eq := by rw [beq_iff, hmeans, Option.some.injEq]
  have hfaster : Side.faster ratio = .candidate ↔ c < b :=
    faster_eq_candidate_iff.trans (hratio.trans hlt.symm)
  refine ⟨hfaster, ?_, ?_, ?_, hspeedup, verdict_eq_faster_iff.trans hfaster, ?_⟩
  · rw [lt_iff, hpercent, Option.some.injEq, hlt]
  · rw [beq_iff, hpercent, Option.some.injEq, heq]
  · rw [gt_iff, hpercent, Option.some.injEq, hgt]
  · intro h
    have ho := heq.mp h
    have hslower : ¬ratio < 1.0 := by
      rw [hratio, ho]
      decide
    have hside : Side.faster ratio = .baseline := if_neg hslower
    rw [hside]
    exact if_pos (htie ho)

/-- A factor is at least one, whatever the ratio. -/
theorem one_le_speedupFactor {ratio : Float} {q : ℚ}
    (h : Decimal.Packed .positive q ratio.toModel.unpack) : 1.0 ≤ speedupFactor ratio := by
  have hlt := Decimal.lt_iff_of_packed h Decimal.packed_one (.inr Decimal.one_lt_large)
  have hle := Decimal.le_iff_of_packed Decimal.packed_one h (.inl Decimal.one_lt_large)
  unfold speedupFactor
  split
  · rename_i hratio
    exact Decimal.one_le_one_div h (hlt.mp hratio)
  · rename_i hratio
    rw [hle]
    exact not_lt.mp (mt hlt.mpr hratio)

section
variable {c b : Float} {m n : Nat} {e f : Int} {hm : 0 < m} {hn : 0 < n}

/-- The figures of two positive means agree. -/
theorem agree_of_pos (hc : c.toModel.unpack = .finite .positive m e hm)
    (hb : b.toModel.unpack = .finite .positive n f hn) :
    Agree c b (.faster (c / b)) (percent c b) (speedupFactor (c / b)) := by
  have hpacked := Decimal.packed_of_unpack hc
  have hpacked' := Decimal.packed_of_unpack hb
  have hlarge := Decimal.value_lt_large (Decimal.canonical_of_unpack hc)
    (Decimal.exponent_le_of_unpack hc)
  have hmeans := hpacked.compare hpacked' (.inl hlarge)
  obtain ⟨q, _, hratio⟩ := Decimal.rounded_div hc hb
  have hzero (hsame : Decimal.value m e = Decimal.value n f) : percent c b = 0.0 := by
    obtain ⟨rfl, rfl⟩ := Decimal.canonical_inj (Decimal.canonical_of_unpack hc)
      (Decimal.canonical_of_unpack hb) hsame
    exact Decimal.percent_same hc hb
  refine agree_of_compare hmeans ?_ ?_ (one_le_speedupFactor hratio) ?_
  · by_cases hsame : Decimal.value m e = Decimal.value n f
    -- equal means have a difference of zero
    · rw [compare_eq_iff_eq.mpr hsame, hzero hsame]
      rfl
    · have htells := (Decimal.tells_percent hc hb hsame).compare_zero (by norm_num)
      rw [Decimal.unpack_zero, htells]
      obtain hlt | hgt := lt_or_gt_of_ne hsame
      · rw [if_pos hlt, compare_lt_iff_lt.mpr hlt]
        rfl
      · rw [if_neg hgt.not_gt, compare_gt_iff_gt.mpr hgt]
        rfl
  · rw [Decimal.div_lt_one_iff hc hb, lt_iff, hmeans, Option.some.injEq]
  · intro ho
    rw [hzero (compare_eq_iff_eq.mp ho)]
    decide

/-- A candidate that took no time is infinitely faster. -/
theorem agree_of_zero (hb : b.toModel.unpack = .finite .positive n f hn) :
    Agree 0.0 b (.faster (0.0 / b)) (percent 0.0 b) (speedupFactor (0.0 / b)) := by
  have hratio : (0.0 / b).toModel.unpack = .zero .positive := by
    rw [Decimal.unpack_div, Decimal.unpack_zero, hb]
    exact Decimal.unpack_pack_zero .positive
  have hpercent := (Decimal.tells_percent_zero Decimal.unpack_zero hb).compare_zero (by norm_num)
  refine agree_of_compare (o := .lt) ?_ hpercent ?_ (one_le_speedupFactor (q := 0) ?_) nofun
  · rw [hb]
    rfl
  · rw [lt_iff, hratio]
    decide
  · rw [hratio]
    exact .zero

/-- A baseline that took no time is infinitely faster. -/
theorem agree_of_zero_baseline (hc : c.toModel.unpack = .finite .positive m e hm) :
    Agree c 0.0 (.faster (c / 0.0)) (percent c 0.0) (speedupFactor (c / 0.0)) := by
  have hdiv (x : Float) {k : Nat} {g : Int} {hk : 0 < k}
      (hx : x.toModel.unpack = .finite .positive k g hk) :
      (x / 0.0).toModel.unpack = .infinity .positive := by
    rw [Decimal.unpack_div, Decimal.unpack_zero, hx]
    exact Decimal.unpack_pack_infinity .positive
  have hdifference : (c - 0.0).toModel.unpack = .finite .positive m e hm := by
    rw [Decimal.unpack_sub, Decimal.unpack_zero, hc]
    exact Decimal.unpack_pack (Decimal.canonical_of_unpack hc)
      (Decimal.exponent_le_of_unpack hc)
  have hpercent : (percent c 0.0).toModel.unpack = .infinity .positive := by
    rw [percent, Decimal.unpack_mul, hdiv _ hdifference]
    exact Decimal.unpack_pack_infinity .positive
  refine agree_of_compare (o := .gt) ?_ ?_ ?_ (one_le_speedupFactor (q := 2 ^ 1024) ?_) nofun
  · rw [hc]
    rfl
  · rw [hpercent]
    rfl
  · rw [lt_iff, hdiv c hc]
    decide
  · rw [hdiv c hc]
    exact .infinity le_rfl

/-- Minus zero turns a factor around. -/
theorem not_agree_of_negative_zero (hb : b.toModel.unpack = .finite .positive n f hn) :
    ¬Agree (-0.0) b (.faster (-0.0 / b)) (percent (-0.0) b) (speedupFactor (-0.0 / b)) := by
  intro h
  have hratio : (-0.0 / b).toModel.unpack = .zero .negative := by
    rw [Decimal.unpack_div, Decimal.unpack_negative_zero, hb]
    exact Decimal.unpack_pack_zero .negative
  have hinverse : (1.0 / (-0.0 / b)).toModel.unpack = .infinity .negative := by
    rw [Decimal.unpack_div, hratio]
    rfl
  have hspeedup := h.speedup
  have hslow : -0.0 / b < 1.0 := by
    rw [lt_iff, hratio]
    decide
  rw [speedupFactor, if_pos hslow, le_iff, hinverse] at hspeedup
  exact absurd hspeedup (by decide)

/-- And it turns a label around. -/
theorem not_agree_of_negative_zero_baseline
    (hc : c.toModel.unpack = .finite .positive m e hm) :
    ¬Agree c (-0.0) (.faster (c / -0.0)) (percent c (-0.0)) (speedupFactor (c / -0.0)) := by
  intro h
  have hratio : (c / -0.0).toModel.unpack = .infinity .negative := by
    rw [Decimal.unpack_div, Decimal.unpack_negative_zero, hc]
    exact Decimal.unpack_pack_infinity .negative
  have hfast : c / -0.0 < 1.0 := by
    rw [lt_iff, hratio]
    decide
  have hlt := h.faster.mp (faster_eq_candidate_iff.mpr hfast)
  have hcompare : (UnpackedFloat.finite .positive m e hm).compare
      (-0.0 : Float).toModel.unpack = some .gt := rfl
  rw [lt_iff, hc, hcompare] at hlt
  cases hlt

/-- Two means of zero, with whatever signs, are equal, and their quotient is no number. -/
theorem not_agree_of_zeros (hc : c = 0.0 ∨ c = -0.0) (hb : b = 0.0 ∨ b = -0.0) :
    ¬Agree c b (.faster (c / b)) (percent c b) (speedupFactor (c / b)) := by
  intro h
  have hsame := h.same
  obtain rfl | rfl := hc <;> obtain rfl | rfl := hb <;> exact absurd hsame (by decide +kernel)

theorem ne_zero_of_unpack (hc : c.toModel.unpack = .finite .positive m e hm) :
    c ≠ 0.0 ∧ c ≠ -0.0 := by
  constructor
  · rintro rfl
    cases hc
  · rintro rfl
    cases hc

end

/-- **The figures agree exactly for two means that are not both zero, and neither of them
minus zero.** -/
theorem agree_iff {c b : Float} (hc : IsMean c) (hb : IsMean b) :
    Agree c b (.faster (c / b)) (percent c b) (speedupFactor (c / b)) ↔ Told c b := by
  obtain rfl | rfl | ⟨m, e, hm, hc⟩ := Decimal.unpack_of_nonneg hc.2 hc.1
  · obtain rfl | rfl | ⟨n, f, hn, hb⟩ := Decimal.unpack_of_nonneg hb.2 hb.1
    · exact iff_of_false (not_agree_of_zeros (.inl rfl) (.inl rfl)) (by decide)
    · exact iff_of_false (not_agree_of_zeros (.inl rfl) (.inr rfl)) (by decide)
    · obtain ⟨hzero, hnegative⟩ := ne_zero_of_unpack hb
      exact iff_of_true (agree_of_zero hb) ⟨by decide, hnegative, fun h => hzero h.2⟩
  · obtain rfl | rfl | ⟨n, f, hn, hb⟩ := Decimal.unpack_of_nonneg hb.2 hb.1
    · exact iff_of_false (not_agree_of_zeros (.inr rfl) (.inl rfl)) (by decide)
    · exact iff_of_false (not_agree_of_zeros (.inr rfl) (.inr rfl)) (by decide)
    · exact iff_of_false (not_agree_of_negative_zero hb) fun h => h.1 rfl
  · obtain ⟨hzero, hnegative⟩ := ne_zero_of_unpack hc
    obtain rfl | rfl | ⟨n, f, hn, hb⟩ := Decimal.unpack_of_nonneg hb.2 hb.1
    · exact iff_of_true (agree_of_zero_baseline hc)
        ⟨hnegative, by decide, fun h => hzero h.1⟩
    · exact iff_of_false (not_agree_of_negative_zero_baseline hc) fun h => h.2.1 rfl
    · exact iff_of_true (agree_of_pos hc hb)
        ⟨hnegative, (ne_zero_of_unpack hb).2, fun h => hzero h.1⟩

/-! ### The records of a comparison -/

theorem agrees_joined (category : String) (test base : TestResult) (c b : Float) :
    (Record.joined category test base).Agrees c b ↔
      Agree c b (.faster (test.stats.mean / base.stats.mean))
        (percent test.stats.mean base.stats.mean)
        (speedupFactor (test.stats.mean / base.stats.mean)) := by
  constructor
  · rintro ⟨side, percentDiff, speedup, hside, hpercent, hspeedup, h⟩
    cases hside
    cases hpercent
    cases hspeedup
    exact h
  · exact fun h => ⟨_, _, _, rfl, rfl, rfl, h⟩

/-- **Every record tells which of its two means is smaller**, in the same way four times,
except for means of zero: the record of a test and of the last test of the baseline that has
its name, with finite means that are not negative, has figures that agree with these means
exactly if not both of them are zero and neither is minus zero. -/
theorem records_agree_iff (candidate baseline : List ResultGroup) :
    List.Forall₂
      (fun p r => ∀ base, IsLast (·.name = p.2.name) (ResultGroup.allTests baseline) base →
        IsMean p.2.stats.mean → IsMean base.stats.mean →
          r.candidate = .ofSummary p.2.stats ∧ r.baseline = some (.ofSummary base.stats) ∧
            (r.Agrees p.2.stats.mean base.stats.mean ↔
              Told p.2.stats.mean base.stats.mean))
      (placed candidate) (of candidate (some baseline)).records := by
  rw [records_of_placed, List.forall₂_map_right_iff, List.forall₂_same]
  intro p _ base hbase hc hb
  rw [lastNamed?_eq_some_iff.mpr hbase]
  exact ⟨rfl, rfl, (agrees_joined ..).trans (agree_iff hc hb)⟩

/-- A test of one sample. -/
def timed (x : Float) : TestResult := .ofSamples "x" 0 [x] none

/-- Half the time is told in all four ways. -/
theorem records_agree_iff_half :
    Told 1.0 2.0 ∧
      ∃ r, (of [⟨"A", [timed 1.0]⟩] (some [⟨"B", [timed 2.0]⟩])).records = [r] ∧
        r.Agrees 1.0 2.0 := by
  have htold : Told 1.0 2.0 := by decide
  refine ⟨htold, ?_⟩
  have hlast : IsLast (·.name = "x") [timed 2.0] (timed 2.0) := ⟨[], [], rfl, rfl, nofun⟩
  have hmean : (timed 1.0).stats.mean = 1.0 := by decide +kernel
  have hmean' : (timed 2.0).stats.mean = 2.0 := by decide +kernel
  obtain _ | ⟨hrecord, hnil⟩ := records_agree_iff [⟨"A", [timed 1.0]⟩] [⟨"B", [timed 2.0]⟩]
  cases hnil
  have hagrees := (hrecord (timed 2.0) hlast (by decide +kernel) (by decide +kernel)).2.2
  rw [hmean, hmean'] at hagrees
  exact ⟨_, rfl, hagrees.mpr htold⟩

/-- Without samples the means are zero, and nothing is told: the percentage is no number, and
the verdict is not that the tests are similar. -/
theorem not_agree_without_samples :
    let empty : TestResult := .ofSamples "x" 0 [] none
    IsMean empty.stats.mean ∧
      ∃ r ∈ (of [⟨"A", [empty]⟩] (some [⟨"B", [empty]⟩])).records,
        r.baseline = some (.ofSummary empty.stats) ∧
          ¬r.Agrees empty.stats.mean empty.stats.mean := by
  refine ⟨by decide, _, List.mem_singleton_self _, rfl, ?_⟩
  rintro ⟨side, percentDiff, speedup, hside, hpercent, hspeedup, h⟩
  have hsame := h.same
  cases hpercent
  exact absurd hsame (by decide +kernel)

end Stopwatch.Comparison
