import Mathlib
import Stopwatch.Proofs.Decimal.Magnitude
import Stopwatch.Proofs.Statistics.Order

/-!
# The range of the mean and of the median

The samples are finite and not negative. Their sum is rounded at every step, so the mean need not
lie between the minimum and the maximum: three times a tenth add up to more than three tenths. It
leaves that range by no more than the rounding of as many sums as there are samples, and not at all
if the total lies in its own range. The median cannot leave it, unless the sum of the middle two is
too large for a float.

- `exactSum`, `foldl_error`, `sum_error`: how far a sum is off;
- `le_half_sum`, `half_sum_le`: halves of sums;
- `Summary.ofSamples_order`: where median and mean lie.
-/

namespace Stopwatch

open Decimal

namespace Statistics

/-! ### Sums -/

/-- The sum of the samples, not rounded. -/
def exactSum (xs : List Float) : ℚ := (xs.map magnitude).sum

/-- How much of a sum rounding may add or take away. -/
def roundoff : ℚ := 1 / 2 ^ 53

@[simp] theorem exactSum_nil : exactSum [] = 0 := rfl

@[simp] theorem exactSum_cons (x : Float) (xs : List Float) :
    exactSum (x :: xs) = magnitude x + exactSum xs := rfl

section
variable {xs : List Float} {r : Float}

theorem exactSum_nonneg (hxs : ∀ x ∈ xs, IsAmount x) : 0 ≤ exactSum xs := by
  refine List.sum_nonneg fun y hy => ?_
  obtain ⟨x, hx, rfl⟩ := List.mem_map.mp hy
  exact (hxs x hx).magnitude_nonneg

theorem length_mul_le_exactSum {q : ℚ} (h : ∀ x ∈ xs, q ≤ magnitude x) :
    xs.length * q ≤ exactSum xs := by
  have hsum := List.card_nsmul_le_sum (xs.map magnitude) q (by simpa using h)
  rwa [List.length_map, nsmul_eq_mul] at hsum

theorem exactSum_le_length_mul {q : ℚ} (h : ∀ x ∈ xs, magnitude x ≤ q) :
    exactSum xs ≤ xs.length * q := by
  have hsum := List.sum_le_card_nsmul (xs.map magnitude) q (by simpa using h)
  rwa [List.length_map, nsmul_eq_mul] at hsum

theorem foldl_infinity (hr : r.toModel.unpack = .infinity .positive)
    (hxs : ∀ x ∈ xs, IsAmount x) :
    (xs.foldl (· + ·) r).toModel.unpack = .infinity .positive := by
  induction xs generalizing r with
  | nil => exact hr
  | cons x xs ih =>
    rw [List.forall_mem_cons] at hxs
    exact ih (infinity_add hr hxs.1) hxs.2

/-- **Every step of a sum is off by one part in `2 ^ 53` of it at most**, unless the sum becomes
infinite. -/
theorem foldl_error (hr : IsAmount r) (hxs : ∀ x ∈ xs, IsAmount x)
    (hfinite : isFinite (xs.foldl (· + ·) r) = true) :
    IsAmount (xs.foldl (· + ·) r) ∧
      (1 - roundoff) ^ xs.length * (magnitude r + exactSum xs) ≤
        magnitude (xs.foldl (· + ·) r) ∧
      magnitude (xs.foldl (· + ·) r) ≤
        (1 + roundoff) ^ xs.length * (magnitude r + exactSum xs) := by
  induction xs generalizing r with
  | nil => simpa using hr
  | cons x xs ih =>
    obtain ⟨hx, hxs⟩ := List.forall_mem_cons.mp hxs
    -- what has become infinite would have stayed so
    have hstep : IsAmount (r + x) := by
      refine (hr.add hx).isAmount ?_
      by_contra hinfinite
      have hlast := foldl_infinity ((hr.add hx).eq_infinity (by simpa using hinfinite)) hxs
      rw [List.foldl_cons, isFinite_of_infinity hlast] at hfinite
      cases hfinite
    obtain ⟨hamount, hlow, hhigh⟩ := ih hstep hxs hfinite
    have hrest := exactSum_nonneg hxs
    have hround := abs_le.mp (hr.add_error hx hstep)
    refine ⟨hamount, ?_, ?_⟩
    · refine le_trans ?_ hlow
      rw [List.length_cons, pow_succ, mul_assoc, exactSum_cons]
      refine mul_le_mul_of_nonneg_left ?_ (pow_nonneg (by norm_num [roundoff]) _)
      unfold roundoff
      linarith
    · refine hhigh.trans ?_
      rw [List.length_cons, pow_succ, mul_assoc, exactSum_cons]
      refine mul_le_mul_of_nonneg_left ?_ (pow_nonneg (by norm_num [roundoff]) _)
      unfold roundoff
      linarith

theorem foldl_amount_or_infinity (hr : IsAmount r) (hxs : ∀ x ∈ xs, IsAmount x) :
    IsAmount (xs.foldl (· + ·) r) ∨
      (xs.foldl (· + ·) r).toModel.unpack = .infinity .positive := by
  induction xs generalizing r with
  | nil => exact .inl hr
  | cons x xs ih =>
    obtain ⟨hx, hxs⟩ := List.forall_mem_cons.mp hxs
    rw [List.foldl_cons]
    cases hstep : isFinite (r + x) with
    | true => exact ih ((hr.add hx).isAmount hstep) hxs
    | false => exact .inr (foldl_infinity ((hr.add hx).eq_infinity hstep) hxs)

/-- The first sample is added to minus zero, which leaves it as it is. -/
theorem negative_zero_add {x : Float} (hx : IsAmount x) :
    IsAmount (-0.0 + x) ∧ magnitude (-0.0 + x) = magnitude x := by
  have hzero : IsAmount (-0.0) := by decide
  have hsum := hzero.add hx
  have hsame : magnitude (-0.0) + magnitude x = magnitude x := zero_add _
  rw [hsame] at hsum
  exact hsum.eq_of_representable hx.representable hx.lt_large

theorem sum_amount_or_infinity (hxs : ∀ x ∈ xs, IsAmount x) :
    IsAmount (sum xs) ∨ (sum xs).toModel.unpack = .infinity .positive :=
  foldl_amount_or_infinity (by decide) hxs

theorem isAmount_sum (hxs : ∀ x ∈ xs, IsAmount x) (hfinite : isFinite (sum xs) = true) :
    IsAmount (sum xs) := by
  refine (sum_amount_or_infinity hxs).resolve_right fun hinfinity => ?_
  rw [isFinite_of_infinity hinfinity] at hfinite
  cases hfinite

theorem sum_infinity (hxs : ∀ x ∈ xs, IsAmount x) (hfinite : isFinite (sum xs) = false) :
    (sum xs).toModel.unpack = .infinity .positive := by
  refine (sum_amount_or_infinity hxs).resolve_left fun hamount => ?_
  rw [hamount.finite] at hfinite
  cases hfinite

/-- Nothing is rounded when natural numbers are added up to `2 ^ 53`. -/
theorem foldl_natCast {ns : List Nat} {n : Nat} (hr : IsAmount r) (hsize : magnitude r = n)
    (h : n + ns.sum ≤ 2 ^ 53) :
    magnitude ((ns.map Float.ofNat).foldl (· + ·) r) = n + exactSum (ns.map Float.ofNat) := by
  induction ns generalizing r n with
  | nil => simpa using hsize
  | cons k ns ih =>
    rw [List.sum_cons] at h
    obtain ⟨hk, hk'⟩ := isAmount_ofNat (n := k) (by omega)
    have hstep := hr.add hk
    rw [hsize, hk', ← Nat.cast_add] at hstep
    obtain ⟨hnext, hnext'⟩ := hstep.eq_of_representable (representable_natCast (by omega))
      (natCast_lt_large (by omega))
    rw [List.map_cons, List.foldl_cons, ih hnext hnext' (by omega), exactSum_cons, hk',
      Nat.cast_add, add_assoc]

theorem sum_natCast {ns : List Nat} (h : ns.sum ≤ 2 ^ 53) :
    magnitude (sum (ns.map Float.ofNat)) = exactSum (ns.map Float.ofNat) := by
  have hzero : magnitude (-0.0) = (0 : Nat) := Nat.cast_zero.symm
  have hsum := foldl_natCast (by decide) hzero (by rwa [Nat.zero_add])
  rwa [Nat.cast_zero, zero_add] at hsum

/-- **How far the sum of so many samples is off.** -/
theorem sum_error (hne : xs ≠ []) (hxs : ∀ x ∈ xs, IsAmount x)
    (hfinite : isFinite (sum xs) = true) :
    (1 - roundoff) ^ (xs.length - 1) * exactSum xs ≤ magnitude (sum xs) ∧
      magnitude (sum xs) ≤ (1 + roundoff) ^ (xs.length - 1) * exactSum xs := by
  obtain ⟨x, xs, rfl⟩ := List.exists_cons_of_ne_nil hne
  obtain ⟨hx, hxs⟩ := List.forall_mem_cons.mp hxs
  obtain ⟨hstart, hsize⟩ := negative_zero_add hx
  obtain ⟨-, hlow, hhigh⟩ := foldl_error hstart hxs hfinite
  rw [hsize] at hlow hhigh
  exact ⟨hlow, hhigh⟩

end

/-! ### Halves -/

section
variable {a b c : Float}

theorem isAmount_two : IsAmount 2.0 ∧ magnitude 2.0 = 2 := by
  have hunpack : (2.0 : Float).toModel.unpack = .finite .positive (2 ^ 52) (-51) (by decide) := rfl
  refine ⟨by decide, ?_⟩
  rw [magnitude_of_unpack hunpack]
  norm_num [value]

/-- A sum that is too large cannot be halved. -/
theorem half_sum_infinity (ha : IsAmount a) (hb : IsAmount b) (h : isFinite (a + b) = false) :
    ((a + b) / 2.0).toModel.unpack = .infinity .positive := by
  obtain ⟨htwo, hsize⟩ := isAmount_two
  exact infinity_div ((ha.add hb).eq_infinity h) htwo (hsize ▸ two_pos)

theorem gives_half_sum (ha : IsAmount a) (hb : IsAmount b) (h : isFinite (a + b) = true) :
    Gives (magnitude (a + b) / 2) ((a + b) / 2.0) := by
  obtain ⟨htwo, hsize⟩ := isAmount_two
  have hhalf := ((ha.add hb).isAmount h).div htwo (hsize ▸ two_pos)
  rwa [hsize] at hhalf

/-- Half the sum of two amounts is not below an amount that neither is below. -/
theorem le_half_sum (ha : IsAmount a) (hb : IsAmount b) (hc : IsAmount c) (hca : c ≤ a)
    (hcb : c ≤ b) : c ≤ (a + b) / 2.0 := by
  rw [hc.le_iff ha] at hca
  rw [hc.le_iff hb] at hcb
  cases hfinite : isFinite (a + b) with
  | true =>
    have hsum := (ha.add hb).isAmount hfinite
    have hdouble := ((ha.add hb).nearest hsum).le_of_representable hc.representable.double
      (by linarith)
    exact (gives_half_sum ha hb hfinite).ge hc (by linarith)
  | false => exact (hc.infinity (half_sum_infinity ha hb hfinite)).1

/-- Half the sum of two amounts is not above an amount that neither is above, if the sum is finite. -/
theorem half_sum_le (ha : IsAmount a) (hb : IsAmount b) (hc : IsAmount c) (hac : a ≤ c)
    (hbc : b ≤ c) (hfinite : isFinite (a + b) = true) :
    IsAmount ((a + b) / 2.0) ∧ (a + b) / 2.0 ≤ c := by
  rw [ha.le_iff hc] at hac
  rw [hb.le_iff hc] at hbc
  have hsum := (ha.add hb).isAmount hfinite
  have hdouble := ((ha.add hb).nearest hsum).ge_of_representable hc.representable.double
    (by linarith)
  have hhalf : magnitude (a + b) / 2 ≤ magnitude c := by linarith
  exact ⟨(gives_half_sum ha hb hfinite).isAmount_of_le hc hhalf,
    (gives_half_sum ha hb hfinite).le hc hhalf⟩

end

/-! ### The mean of a sum -/

section
variable {xs : List Float}

theorem isAmount_count (hne : xs ≠ []) (hcount : xs.length ≤ 2 ^ 53) :
    IsAmount (Float.ofNat xs.length) ∧ magnitude (Float.ofNat xs.length) = xs.length ∧
      (0 : ℚ) < xs.length := by
  obtain ⟨hamount, hsize⟩ := isAmount_ofNat hcount
  exact ⟨hamount, hsize, Nat.cast_pos.mpr (List.length_pos_iff.mpr hne)⟩

theorem gives_mean (hne : xs ≠ []) (hcount : xs.length ≤ 2 ^ 53) (hsum : IsAmount (sum xs)) :
    Gives (magnitude (sum xs) / xs.length) (sum xs / Float.ofNat xs.length) := by
  obtain ⟨hamount, hsize, hpos⟩ := isAmount_count hne hcount
  have hquotient := hsum.div hamount (by rwa [hsize])
  rwa [hsize] at hquotient

/-- The mean is not larger than the total. -/
theorem isAmount_mean (hne : xs ≠ []) (hcount : xs.length ≤ 2 ^ 53) (hsum : IsAmount (sum xs)) :
    IsAmount (sum xs / Float.ofNat xs.length) := by
  refine (gives_mean hne hcount hsum).isAmount_of_le hsum ?_
  have hone : (1 : ℚ) ≤ xs.length := by
    exact_mod_cast List.length_pos_iff.mpr hne
  exact div_le_self hsum.magnitude_nonneg hone

/-- The sum of two samples cannot leave the range of twice a sample. -/
theorem sum_range_of_length_le_two {a b : Float} (hlength : xs.length ≤ 2)
    (hxs : ∀ x ∈ xs, IsAmount x) (hsum : IsAmount (sum xs)) (ha : IsAmount a) (hb : IsAmount b)
    (hle : ∀ x ∈ xs, magnitude a ≤ magnitude x ∧ magnitude x ≤ magnitude b) :
    xs.length * magnitude a ≤ magnitude (sum xs) ∧
      magnitude (sum xs) ≤ xs.length * magnitude b := by
  match xs with
  | [] =>
    have hzero : magnitude (sum []) = 0 := rfl
    rw [hzero, List.length_nil, Nat.cast_zero, zero_mul, zero_mul]
    exact ⟨le_rfl, le_rfl⟩
  | [x] =>
    have hsize := (negative_zero_add (hxs x (by simp))).2
    have hrange := hle x (by simp)
    have hcast : (([x] : List Float).length : ℚ) = 1 := Nat.cast_one
    show _ ≤ magnitude (-0.0 + x) ∧ magnitude (-0.0 + x) ≤ _
    rw [hsize, hcast, one_mul, one_mul]
    exact hrange
  | [x, y] =>
    obtain ⟨hstart, hsize⟩ := negative_zero_add (hxs x (by simp))
    have hrange := hle x (by simp)
    have hrange' := hle y (by simp)
    have hnearest := (hstart.add (hxs y (by simp))).nearest hsum
    have hcast : (([x, y] : List Float).length : ℚ) = 2 := Nat.cast_two
    rw [hsize] at hnearest
    rw [hcast]
    exact ⟨hnearest.le_of_representable ha.representable.double (by linarith),
      hnearest.ge_of_representable hb.representable.double (by linarith)⟩
  | _ :: _ :: _ :: _ => simp at hlength

theorem nearest_range {x q : ℚ} (h : Nearest x q) (hx : 0 ≤ x) :
    (1 - roundoff) * x - 2 ^ (-1075 : Int) ≤ q ∧ q ≤ (1 + roundoff) * x + 2 ^ (-1075 : Int) := by
  have hpos := two_zpow_pos (-1075)
  have hround : 0 ≤ roundoff * x := mul_nonneg (by norm_num [roundoff]) hx
  have hshare : x / 2 ^ 53 = roundoff * x := by
    unfold roundoff
    ring
  obtain herror | herror := h.error <;> rw [abs_le] at herror <;> constructor <;> linarith

/-- **The mean leaves the range of the samples by the rounding of as many sums as there are
samples, and half the least float, at most.** -/
theorem mean_range (hne : xs ≠ []) (hcount : xs.length ≤ 2 ^ 53) (hxs : ∀ x ∈ xs, IsAmount x)
    (hsum : IsAmount (sum xs)) {a b : ℚ}
    (hle : ∀ x ∈ xs, a ≤ magnitude x ∧ magnitude x ≤ b) :
    (1 - roundoff) ^ xs.length * a - 2 ^ (-1075 : Int) ≤
        magnitude (sum xs / Float.ofNat xs.length) ∧
      magnitude (sum xs / Float.ofNat xs.length) ≤
        (1 + roundoff) ^ xs.length * b + 2 ^ (-1075 : Int) := by
  obtain ⟨-, -, hpos⟩ := isAmount_count hne hcount
  obtain ⟨hlow, hhigh⟩ := sum_error hne hxs hsum.finite
  have hnearest := (gives_mean hne hcount hsum).nearest (isAmount_mean hne hcount hsum)
  obtain ⟨hmin, hmax⟩ := nearest_range hnearest (div_nonneg hsum.magnitude_nonneg hpos.le)
  have hbelow := length_mul_le_exactSum fun x hx => (hle x hx).1
  have habove := exactSum_le_length_mul fun x hx => (hle x hx).2
  -- one rounding more than the sum has
  have hlength : xs.length = xs.length - 1 + 1 := by
    have := List.length_pos_iff.mpr hne
    omega
  constructor
  · refine le_trans (sub_le_sub_right ?_ _) hmin
    calc (1 - roundoff) ^ xs.length * a
        = (1 - roundoff) * ((1 - roundoff) ^ (xs.length - 1) * (xs.length * a) / xs.length) := by
          nth_rewrite 1 [hlength]
          rw [pow_succ]
          field_simp
      _ ≤ (1 - roundoff) * (magnitude (sum xs) / xs.length) := by
          have hround : 0 ≤ 1 - roundoff := by norm_num [roundoff]
          gcongr
          exact (mul_le_mul_of_nonneg_left hbelow (by positivity)).trans hlow
  · refine hmax.trans (add_le_add_left ?_ _)
    calc (1 + roundoff) * (magnitude (sum xs) / xs.length)
        ≤ (1 + roundoff) * ((1 + roundoff) ^ (xs.length - 1) * (xs.length * b) / xs.length) := by
          have hround : 0 ≤ 1 + roundoff := by norm_num [roundoff]
          gcongr
          exact hhigh.trans (mul_le_mul_of_nonneg_left habove (by positivity))
      _ = (1 + roundoff) ^ xs.length * b := by
          nth_rewrite 4 [hlength]
          rw [pow_succ]
          field_simp

end

end Statistics

namespace Summary

open Statistics

variable {xs : List Float}

theorem total_eq (hne : xs ≠ []) : (ofSamples xs).total = sum xs :=
  congrArg Summary.total (ofSamples_of_ne_nil hne)

theorem mean_eq (hne : xs ≠ []) :
    (ofSamples xs).mean = sum xs / Float.ofNat xs.length :=
  congrArg Summary.mean (ofSamples_of_ne_nil hne)

/-- All samples lie between the minimum and the maximum. -/
theorem magnitude_range (hne : xs ≠ []) (hxs : ∀ x ∈ xs, IsAmount x) {x : Float} (hx : x ∈ xs) :
    magnitude (ofSamples xs).min ≤ magnitude x ∧ magnitude x ≤ magnitude (ofSamples xs).max := by
  obtain ⟨hmin, hfirst⟩ := min_mem_and_le hne
  obtain ⟨hmax, hlast⟩ := max_mem_and_le hne
  rw [← (hxs _ hmin).le_iff (hxs x hx), ← (hxs x hx).le_iff (hxs _ hmax)]
  exact ⟨(hxs _ hmin).le_of_rank_le (hxs x hx) (hfirst x hx),
    (hxs x hx).le_of_rank_le (hxs _ hmax) (hlast x hx)⟩

/-- The median cannot leave the range, unless the sum of the middle two becomes infinite. -/
theorem median_range (hne : xs ≠ []) (hxs : ∀ x ∈ xs, IsAmount x) :
    (ofSamples xs).min ≤ (ofSamples xs).median ∧
      ((ofSamples xs).median ≤ (ofSamples xs).max ↔ isFinite (ofSamples xs).median = true) := by
  have hmin := hxs _ (min_mem_and_le hne).1
  have hmax := hxs _ (max_mem_and_le hne).1
  have hrange {x : Float} (hx : x ∈ xs) :
      (ofSamples xs).min ≤ x ∧ x ≤ (ofSamples xs).max := by
    rw [hmin.le_iff (hxs x hx), (hxs x hx).le_iff hmax]
    exact magnitude_range hne hxs hx
  obtain hmedian | ⟨a, ha, b, hb, hmedian⟩ := median_mem_or_half hne
  · have hamount := hxs _ hmedian
    exact ⟨(hrange hmedian).1, iff_of_true (hrange hmedian).2 hamount.finite⟩
  · rw [hmedian]
    refine ⟨le_half_sum (hxs a ha) (hxs b hb) hmin (hrange ha).1 (hrange hb).1, ?_⟩
    cases hfinite : isFinite (a + b) with
    | true =>
      obtain ⟨hamount, hle⟩ := half_sum_le (hxs a ha) (hxs b hb) hmax (hrange ha).2 (hrange hb).2 hfinite
      exact iff_of_true hle hamount.finite
    | false =>
      have hinfinity := half_sum_infinity (hxs a ha) (hxs b hb) hfinite
      refine iff_of_false (hmax.infinity hinfinity).2 ?_
      rw [isFinite_of_infinity hinfinity]
      exact Bool.false_ne_true

/-- **How the figures of finite samples that are not negative are ordered.** The median lies between
the minimum and the maximum, unless it is infinite. The mean does if the total lies in its own range,
and always for one or two samples, or if adding up needed no rounding; in general it is off by the
rounding of as many sums as there are samples. -/
theorem ofSamples_order {s : Summary} (hs : ofSamples xs = s) (hne : xs ≠ [])
    (hxs : ∀ x ∈ xs, IsAmount x) (hcount : xs.length ≤ 2 ^ 53) :
    (s.min ≤ s.median ∧ (s.median ≤ s.max ↔ isFinite s.median = true)) ∧
    (isFinite s.total = true →
      (xs.length * magnitude s.min ≤ magnitude s.total → s.min ≤ s.mean) ∧
      (magnitude s.total ≤ xs.length * magnitude s.max → s.mean ≤ s.max) ∧
      (xs.length ≤ 2 ∨ magnitude s.total = exactSum xs → s.min ≤ s.mean ∧ s.mean ≤ s.max) ∧
      (1 - roundoff) ^ xs.length * magnitude s.min - 2 ^ (-1075 : Int) ≤ magnitude s.mean ∧
      magnitude s.mean ≤ (1 + roundoff) ^ xs.length * magnitude s.max + 2 ^ (-1075 : Int)) ∧
    (isFinite s.total = false → s.min ≤ s.mean ∧ ¬s.mean ≤ s.max) := by
  subst hs
  have hmin := hxs _ (min_mem_and_le hne).1
  have hmax := hxs _ (max_mem_and_le hne).1
  have hrange {x : Float} (hx : x ∈ xs) := magnitude_range hne hxs hx
  obtain ⟨hamount, hsize, hpos⟩ := isAmount_count hne hcount
  refine ⟨median_range hne hxs, ?_, ?_⟩ <;> rw [total_eq hne, mean_eq hne] <;> intro hfinite
  · have hsum := isAmount_sum hxs hfinite
    have hmean := gives_mean hne hcount hsum
    have hlow (hle : xs.length * magnitude (ofSamples xs).min ≤ magnitude (sum xs)) :
        (ofSamples xs).min ≤ sum xs / Float.ofNat xs.length := by
      refine hmean.ge hmin ?_
      rwa [le_div_iff₀ hpos, mul_comm]
    have hhigh (hle : magnitude (sum xs) ≤ xs.length * magnitude (ofSamples xs).max) :
        sum xs / Float.ofNat xs.length ≤ (ofSamples xs).max := by
      refine hmean.le hmax ?_
      rwa [div_le_iff₀ hpos, mul_comm]
    refine ⟨hlow, hhigh, ?_, mean_range hne hcount hxs hsum fun x hx => hrange hx⟩
    rintro (hlength | hexact)
    · obtain ⟨hle, hge⟩ := sum_range_of_length_le_two hlength hxs hsum hmin hmax
        fun x hx => hrange hx
      exact ⟨hlow hle, hhigh hge⟩
    · refine ⟨hlow ?_, hhigh ?_⟩ <;> rw [hexact]
      · exact length_mul_le_exactSum fun x hx => (hrange hx).1
      · exact exactSum_le_length_mul fun x hx => (hrange hx).2
  -- an infinite total gives an infinite mean
  · have hmean := infinity_div (sum_infinity hxs hfinite) hamount (by rwa [hsize])
    exact ⟨(hmin.infinity hmean).1, (hmax.infinity hmean).2⟩

/-- Three samples whose sum is exact, and two, of `2 ^ 1023` each, whose sum is too large. -/
theorem ofSamples_order_of_naturals :
    ((ofSamples ([1, 4, 2].map Float.ofNat)).min ≤ (ofSamples ([1, 4, 2].map Float.ofNat)).mean ∧
      (ofSamples ([1, 4, 2].map Float.ofNat)).mean ≤
        (ofSamples ([1, 4, 2].map Float.ofNat)).max) ∧
    ¬(ofSamples (List.replicate 2 (.ofBits 0x7FE0000000000000))).mean ≤
      (ofSamples (List.replicate 2 (.ofBits 0x7FE0000000000000))).max := by
  have hexact := @ofSamples_order ([1, 4, 2].map Float.ofNat) _ rfl (List.cons_ne_nil _ _)
    (by decide) (by decide)
  have hlarge := @ofSamples_order (List.replicate 2 (.ofBits 0x7FE0000000000000)) _ rfl
    (List.cons_ne_nil _ _) (by decide) (by decide)
  refine ⟨(hexact.2.1 ?_).2.2.1 (.inr ?_), (hlarge.2.2 ?_).2⟩ <;> rw [total_eq (by decide)]
  · decide +kernel
  · exact sum_natCast (by decide)
  · decide +kernel

/-- **The mean of three tenths is above a tenth**, which all samples are. -/
theorem not_mean_le_max_of_tenths :
    (∀ x ∈ [0.1, 0.1, 0.1], IsAmount x) ∧
      ¬(ofSamples [0.1, 0.1, 0.1]).mean ≤ (ofSamples [0.1, 0.1, 0.1]).max := by
  have hmax : (ofSamples [0.1, 0.1, 0.1]).max = 0.1 := by
    simpa using (max_mem_and_le (List.cons_ne_nil 0.1 [0.1, 0.1])).1
  rw [hmax, mean_eq (List.cons_ne_nil _ _)]
  decide +kernel

end Summary

end Stopwatch
