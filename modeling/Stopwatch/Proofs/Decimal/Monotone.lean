import Mathlib
import Stopwatch.Proofs.Decimal.Magnitude

/-!
# Rounding keeps the order

A larger number is not rounded to a smaller float. Where two numbers are the same, so are the
floats, as they come from the same operands or need not be rounded. So sums, differences, products
and quotients are monotone in each operand, rounded as they are.

- `Gives.mono`: larger numbers are rounded to floats that are not smaller;
- `IsAmount.add_mono`, `mul_mono`, `div_mono`, `sub_mono`: one operand is fixed;
- `IsAmount.nonneg_sub_iff`: the sign of a difference tells the order of two amounts;
- `IsAmount.magnitude_add_of_large`: what is less than one is lost when added to a large amount.
-/

namespace Stopwatch.Decimal

open Float.Model (Format UnpackedFloat)
open Float.Model.UnpackedFloat

/-! ### Nearest numbers -/

section
variable {x y p q : ℚ}

/-- What is no further from the larger of two numbers is in the upper half of the gap. -/
theorem add_le_of_closer (hlt : p < q) (h : |q - x| ≤ |p - x|) : p + q ≤ 2 * x := by
  have hsquares := sq_le_sq.mpr h
  nlinarith

/-- What is no further from the smaller of two numbers is in the lower half of the gap. -/
theorem le_add_of_closer (hlt : p < q) (h : |p - x| ≤ |q - x|) : 2 * x ≤ p + q := by
  have hsquares := sq_le_sq.mpr h
  nlinarith

theorem Nearest.closest_of_representable (h : Nearest x q) (hp : Representable p) :
    |q - x| ≤ |p - x| := by
  obtain ⟨m, e, hcanonical, rfl⟩ := hp
  exact h.closest hcanonical

theorem Nearest.mono (h : Nearest x p) (h' : Nearest y q) (hp : Representable p)
    (hq : Representable q) (hlt : x < y) : p ≤ q := by
  by_contra hgt
  have hupper := add_le_of_closer (not_le.mp hgt) (h.closest_of_representable hq)
  have hlower := le_add_of_closer (not_le.mp hgt) (h'.closest_of_representable hp)
  linarith

theorem representable_large : Representable (2 ^ 1024) :=
  ⟨2 ^ 52, 972, ⟨by decide, by decide, .inl le_rfl⟩, value_large⟩

end

/-! ### Floats -/

/-- Amounts with the same magnitude are the same, unless they are zero. -/
theorem IsAmount.eq_of_magnitude {x y : Float} (hx : IsAmount x) (hy : IsAmount y)
    (h : magnitude x = magnitude y) (hpos : 0 < magnitude x) : x = y := by
  have hsized := sized_iff.mpr hx
  have hsized' := sized_iff.mpr hy
  refine rank_injective ?_
  rw [rank_eq, rank_eq]
  unfold magnitude at h hpos
  generalize x.toModel.unpack = u at *
  generalize y.toModel.unpack = v at *
  cases hsized with
  | zero s => exact absurd hpos (lt_irrefl _)
  | finite hm hcanonical he =>
    cases hsized' with
    | zero s =>
      rw [h] at hpos
      exact absurd hpos (lt_irrefl _)
    | finite hn hcanonical' he' =>
      obtain ⟨rfl, rfl⟩ := canonical_inj hcanonical hcanonical' h
      rfl

namespace Gives

variable {x y : ℚ} {r r' : Float}

/-- What is infinite is no larger than what is infinite. -/
theorem infinity_le (hr : r.toModel.unpack = .infinity .positive)
    (hr' : r'.toModel.unpack = .infinity .positive) : r ≤ r' := by
  rw [Decimal.le_iff, hr, hr']
  rfl

theorem self_le (h : Gives x r) : r ≤ r := by
  cases hfinite : isFinite r with
  | true =>
    have hr := h.isAmount hfinite
    rw [hr.le_iff hr]
  | false => exact infinity_le (h.eq_infinity hfinite) (h.eq_infinity hfinite)

theorem mono (h : Gives x r) (h' : Gives y r') (hlt : x < y) : r ≤ r' := by
  cases hfinite' : isFinite r' with
  | false =>
    have hinfinity := h'.eq_infinity hfinite'
    cases hfinite : isFinite r with
    | true => exact ((h.isAmount hfinite).infinity hinfinity).1
    | false => exact infinity_le (h.eq_infinity hfinite) hinfinity
  | true =>
    have hr' := h'.isAmount hfinite'
    obtain ⟨p, hnearest, ⟨hsized, rfl⟩ | ⟨-, hlarge⟩⟩ := h
    · have hr := sized_iff.mp hsized
      exact (hr.le_iff hr').mpr
        (hnearest.mono (h'.nearest hr') hr.representable hr'.representable hlt)
    -- what is too large would have to be nearer to the smaller number than a float that is not
    · have hbound := hr'.lt_large
      have hupper := add_le_of_closer (hbound.trans_le hlarge)
        (hnearest.closest_of_representable hr'.representable)
      have hlower := le_add_of_closer hbound
        ((h'.nearest hr').closest_of_representable representable_large)
      generalize (2 : ℚ) ^ 1024 = large at hlarge hlower
      linarith

/-- **Rounding keeps the order**, where it has no choice between two floats. -/
theorem mono_of_le (h : Gives x r) (h' : Gives y r') (hle : x ≤ y)
    (hsame : x = y → r = r' ∨ Representable x) : r ≤ r' := by
  obtain hlt | rfl := hle.lt_or_eq
  · exact h.mono h' hlt
  obtain rfl | hx := hsame rfl
  · exact h.self_le
  · by_cases hlarge : x < 2 ^ 1024
    · obtain ⟨hr, hsize⟩ := h.eq_of_representable hx hlarge
      obtain ⟨hr', hsize'⟩ := h'.eq_of_representable hx hlarge
      rw [hr.le_iff hr', hsize, hsize']
    · have hinfinity {s : Float} (hs : Gives x s) : s.toModel.unpack = .infinity .positive := by
        obtain ⟨q, hnearest, ⟨hsized, rfl⟩ | ⟨hinfinite, -⟩⟩ := hs
        · have hbound := (sized_iff.mp hsized).lt_large
          exact absurd ((hnearest.eq_of_representable hx).symm.trans_lt hbound) hlarge
        · exact hinfinite
      exact infinity_le (hinfinity h) (hinfinity h')

end Gives

/-! ### Operations -/

namespace IsAmount

variable {a b c : Float}

/-- Two amounts of one magnitude are the same, or zero. -/
theorem same_or_zero (ha : IsAmount a) (hb : IsAmount b) (h : magnitude a = magnitude b) :
    a = b ∨ magnitude a = 0 := by
  obtain hpos | hzero := ha.magnitude_nonneg.lt_or_eq
  · exact .inl (ha.eq_of_magnitude hb h hpos)
  · exact .inr hzero.symm

theorem add_mono (hc : IsAmount c) (ha : IsAmount a) (hb : IsAmount b) (h : a ≤ b) :
    c + a ≤ c + b := by
  refine (hc.add ha).mono_of_le (hc.add hb) (add_le_add_right ((ha.le_iff hb).mp h) _)
    fun hsame => ?_
  obtain rfl | hzero := ha.same_or_zero hb (add_left_cancel hsame)
  · exact .inl rfl
  · rw [hzero, add_zero]
    exact .inr hc.representable

theorem mul_mono {n : Nat} {f : Int} {hn : 0 < n} (ha : IsAmount a) (hb : IsAmount b)
    (hc : c.toModel.unpack = .finite .positive n f hn) (hleading : 2 ^ 52 ≤ n) (h : a ≤ b) :
    a * c ≤ b * c := by
  have hpos : 0 < magnitude c := by
    rw [magnitude_of_unpack hc]
    exact value_pos hn f
  refine (ha.mul hc hleading).mono_of_le (hb.mul hc hleading)
    (mul_le_mul_of_nonneg_right ((ha.le_iff hb).mp h) hpos.le) fun hsame => ?_
  obtain rfl | hzero := ha.same_or_zero hb (mul_right_cancel₀ hpos.ne' hsame)
  · exact .inl rfl
  · rw [hzero, zero_mul, ← hzero]
    exact .inr ha.representable

theorem div_mono (ha : IsAmount a) (hb : IsAmount b) (hc : IsAmount c) (hpos : 0 < magnitude c)
    (h : a ≤ b) : a / c ≤ b / c := by
  refine (ha.div hc hpos).mono_of_le (hb.div hc hpos)
    (div_le_div_of_nonneg_right ((ha.le_iff hb).mp h) hpos.le) fun hsame => ?_
  obtain rfl | hzero := ha.same_or_zero hb ((div_left_inj' hpos.ne').mp hsame)
  · exact .inl rfl
  · rw [hzero, zero_div, ← hzero]
    exact .inr ha.representable

end IsAmount

/-! ### Differences -/

section
variable {u v : UnpackedFloat}

theorem Sized.sub (hu : Sized u) (hv : Sized v) (hle : numberOf v ≤ numberOf u) :
    Given (numberOf u - numberOf v) (unpack Format.binary64
      (UnpackedFloat.pack Format.binary64 (UnpackedFloat.sub Format.binary64 u v))) := by
  cases hu with
  | zero s =>
    cases hv with
    | zero s' =>
      have hzero : numberOf (.zero s) - numberOf (.zero s') = 0 := sub_self _
      rw [hzero]
      cases s <;> cases s' <;> exact given_zero _
    | finite hn h he => exact absurd (value_pos hn _) hle.not_gt
  | @finite m e hm h he =>
    cases hv with
    | zero s' =>
      have hsame : numberOf (.finite .positive m e hm) - numberOf (.zero s') =
        numberOf (.finite .positive m e hm) := sub_zero _
      rw [hsame]
      exact (Sized.finite hm h he).given_pack
    | @finite n f hn h' he' =>
      unfold numberOf at hle ⊢
      obtain hlt | hsame := hle.lt_or_eq
      · have hrounded := rounded_difference hm hn hlt.ne'
        rw [if_neg hlt.le.not_gt, abs_of_pos (sub_pos.mpr hlt)] at hrounded
        exact hrounded.given
      · obtain ⟨rfl, rfl⟩ := canonical_inj h' h hsame
        simp only [UnpackedFloat.sub, Sign.apply, sub_self]
        exact given_zero .positive

/-- A difference that is below zero does not become zero. -/
theorem Sized.sub_negative (hu : Sized u) (hv : Sized v) (hlt : numberOf u < numberOf v) :
    ¬NotNegative (unpack Format.binary64
      (UnpackedFloat.pack Format.binary64 (UnpackedFloat.sub Format.binary64 u v))) := by
  cases hv with
  | zero s' => exact absurd hu.nonneg hlt.not_ge
  | @finite n f hn h' he' =>
    cases hu with
    | zero s =>
      have hpack : unpack Format.binary64 (UnpackedFloat.pack Format.binary64
          (.finite .negative n f hn)) = .finite .negative n f hn := unpack_pack h' he'
      show ¬NotNegative (unpack Format.binary64 (UnpackedFloat.pack Format.binary64
        (.finite .negative n f hn)))
      rw [hpack]
      exact nofun
    | @finite m e hm h he =>
      have hlt' : value m e < value n f := hlt
      have hrounded := rounded_difference hm hn hlt'.ne
      rw [if_pos hlt'] at hrounded
      obtain ⟨q, hq, hpacked⟩ := hrounded.tells (canonical_apart h h' hlt'.ne)
      have hpos : 0 < |value m e - value n f| := abs_pos.mpr (sub_ne_zero.mpr hlt'.ne)
      intro hnot
      generalize unpack Format.binary64 _ = w at hpacked hnot
      cases hpacked with
      | zero => linarith
      | finite => cases hnot
      | infinity => cases hnot

end

namespace IsAmount

variable {a b c : Float}

/-- **A difference is rounded to the nearest float**, as sums are. -/
theorem sub (ha : IsAmount a) (hb : IsAmount b) (hle : b ≤ a) :
    Gives (magnitude a - magnitude b) (a - b) := by
  unfold Gives
  rw [unpack_sub]
  exact (sized_iff.mpr ha).sub (sized_iff.mpr hb) ((hb.le_iff ha).mp hle)

theorem sub_mono (ha : IsAmount a) (hb : IsAmount b) (hc : IsAmount c) (hca : c ≤ a) (h : a ≤ b) :
    a - c ≤ b - c := by
  have hle := (ha.le_iff hb).mp h
  have hcb := hc.le_trans ha hb hca h
  refine (ha.sub hc hca).mono_of_le (hb.sub hc hcb) (sub_le_sub_right hle _) fun hsame => ?_
  obtain rfl | hzero := ha.same_or_zero hb (sub_left_inj.mp hsame)
  · exact .inl rfl
  · have hc0 : magnitude c = 0 := by
      have hlow := hc.magnitude_nonneg
      have hhigh := (hc.le_iff ha).mp hca
      linarith
    rw [hzero, hc0, sub_zero, ← hzero]
    exact .inr ha.representable

/-- **The sign of a difference tells the order.** -/
theorem nonneg_sub_iff (ha : IsAmount a) (hb : IsAmount b) : 0.0 ≤ b - a ↔ a ≤ b := by
  constructor
  · intro h
    rw [nonneg_iff, unpack_sub] at h
    by_contra hlt
    rw [ha.le_iff hb, not_le] at hlt
    exact (sized_iff.mpr hb).sub_negative (sized_iff.mpr ha) hlt h
  · exact fun h => (hb.sub ha h).nonneg

end IsAmount

/-! ### Large amounts -/

/-- From `2 ^ 53` on, floats stand for even numbers. -/
theorem Representable.even_of_large {x : ℚ} (h : Representable x) (hlarge : 2 ^ 53 ≤ x) :
    ∃ k : Nat, x = 2 * k := by
  obtain ⟨m, e, hcanonical, rfl⟩ := h
  have hdigits : (m : ℚ) < 2 ^ 53 := by exact_mod_cast hcanonical.lt
  have hexponent : 0 < e := by
    by_contra hle
    have hshrink : value m e ≤ m :=
      mul_le_of_le_one_right (Nat.cast_nonneg m) (zpow_le_one_of_nonpos₀ one_le_two (by omega))
    linarith
  refine ⟨m * 2 ^ (e - 1).toNat, ?_⟩
  have hpower : (2 : ℚ) ^ e = 2 * 2 ^ (e - 1).toNat := by
    rw [← zpow_natCast, ← zpow_one_add₀ two_ne_zero]
    congr 1
    omega
  unfold value
  rw [hpower]
  push_cast
  ring

/-- What is less than one is lost when it is added to a large amount. -/
theorem IsAmount.magnitude_add_of_large {a c : Float} (hc : IsAmount c) (ha : IsAmount a)
    (hsum : IsAmount (c + a)) (hlarge : 2 ^ 53 ≤ magnitude c) (hsmall : magnitude a < 1) :
    magnitude (c + a) = magnitude c := by
  have hnearest := (hc.add ha).nearest hsum
  have hle := hnearest.le_of_representable hc.representable (by linarith [ha.magnitude_nonneg])
  have hclosest := hnearest.closest_of_representable hc.representable
  rw [abs_of_nonpos (by linarith [ha.magnitude_nonneg] :
    magnitude c - (magnitude c + magnitude a) ≤ 0)] at hclosest
  obtain ⟨k, hk⟩ := hc.representable.even_of_large hlarge
  obtain ⟨l, hl⟩ := hsum.representable.even_of_large (hlarge.trans hle)
  -- the next float is further away than twice what is added
  have hlt := le_abs_self (magnitude (c + a) - (magnitude c + magnitude a))
  rw [hk, hl] at hle hclosest hlt ⊢
  have hkl : k ≤ l := by exact_mod_cast (by linarith : (k : ℚ) ≤ l)
  have hlk : l < k + 1 := by exact_mod_cast (by linarith : (l : ℚ) < k + 1)
  rw [le_antisymm (Nat.lt_succ_iff.mp hlk) hkl]

theorem representable_two_pow (k : Nat) : Representable (2 ^ k) := by
  refine ⟨2 ^ 52, k - 52, ⟨by decide, by omega, .inl le_rfl⟩, ?_⟩
  rw [value_two_pow, ← zpow_natCast]
  congr 1
  omega

/-- A number below a power of two is rounded to an amount below it. -/
theorem Gives.isAmount_of_le_two_pow {x : ℚ} {r : Float} (h : Gives x r) {k : Nat} (hk : k < 1024)
    (hle : x ≤ 2 ^ k) : IsAmount r ∧ magnitude r ≤ 2 ^ k := by
  have hlarge : (2 : ℚ) ^ k < 2 ^ 1024 := pow_lt_pow_right₀ one_lt_two hk
  obtain ⟨q, hnearest, ⟨hsized, rfl⟩ | ⟨-, hinfinite⟩⟩ := h
  · exact ⟨sized_iff.mp hsized, hnearest.ge_of_representable (representable_two_pow k) hle⟩
  · have hbound := hnearest.ge_of_representable (representable_two_pow k) hle
    exact absurd (hinfinite.trans hbound) hlarge.not_ge

/-- Larger natural numbers are not turned into smaller floats. -/
theorem ofNat_mono {m n : Nat} (h : m ≤ n) : Float.ofNat m ≤ Float.ofNat n := by
  refine (gives_ofNat m).mono_of_le (gives_ofNat n) (Nat.cast_le.mpr h) fun hsame => .inl ?_
  rw [Nat.cast_injective hsame]

end Stopwatch.Decimal
