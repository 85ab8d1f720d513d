import Mathlib
import Stopwatch.Proofs.Decimal.Monotone

/-!
# Amounts and what is infinite

A float that is not negative is an amount, or it is infinite. Such floats are ordered as what they
stand for, with infinity above all amounts, and so their order is a linear one. Products with a
factor of at least one are monotone in both operands, whether they overflow or not.

- `extent`: what a float that is not negative stands for;
- `le_iff_extent`, `lt_iff_extent`: the order of such floats;
- `mul_mono_of_one_le`: products are monotone;
- `one_add_div_mono`: so is one and some part of a float.
-/

namespace Stopwatch.Decimal

open Float.Model (Format UnpackedFloat)
open Float.Model.UnpackedFloat

/-! ### Extents -/

/-- What a float that is not negative stands for. -/
def extent (x : Float) : WithTop ℚ := if isFinite x then magnitude x else ⊤

section
variable {x y : Float}

theorem IsAmount.extent_eq (h : IsAmount x) : extent x = magnitude x := if_pos h.finite

theorem extent_of_infinity (h : x.toModel.unpack = .infinity .positive) : extent x = ⊤ :=
  if_neg (by rw [isFinite_of_infinity h]; exact Bool.false_ne_true)

/-- A float that is not negative is an amount or infinite. -/
theorem amount_or_infinity (h : 0.0 ≤ x) :
    IsAmount x ∨ x.toModel.unpack = .infinity .positive := by
  have hnot := nonneg_iff.mp h
  generalize hunpack : x.toModel.unpack = u at hnot
  cases hnot with
  | zero s => exact .inl (sized_iff.mp (hunpack ▸ .zero s))
  | @finite m e hm =>
    refine .inl (sized_iff.mp ?_)
    rw [hunpack]
    exact .finite hm (canonical_of_unpack hunpack) (exponent_le_of_unpack hunpack)
  | infinity => exact .inr rfl

/-- **Floats that are not negative are ordered as what they stand for.** -/
theorem le_iff_extent (hx : 0.0 ≤ x) (hy : 0.0 ≤ y) : x ≤ y ↔ extent x ≤ extent y := by
  obtain hx | hx := amount_or_infinity hx
  · obtain hy | hy := amount_or_infinity hy
    · rw [hx.le_iff hy, hx.extent_eq, hy.extent_eq, WithTop.coe_le_coe]
    · rw [extent_of_infinity hy]
      exact iff_of_true (hx.infinity hy).1 le_top
  · obtain hy | hy := amount_or_infinity hy
    · rw [extent_of_infinity hx, hy.extent_eq]
      exact iff_of_false (hy.infinity hx).2 (WithTop.coe_lt_top _).not_ge
    · rw [extent_of_infinity hx, extent_of_infinity hy]
      exact iff_of_true (Gives.infinity_le hx hy) le_rfl

theorem lt_iff_extent (hx : 0.0 ≤ x) (hy : 0.0 ≤ y) : x < y ↔ extent x < extent y := by
  obtain hx | hx := amount_or_infinity hx
  · obtain hy | hy := amount_or_infinity hy
    · rw [hx.lt_iff hy, hx.extent_eq, hy.extent_eq, WithTop.coe_lt_coe]
    · have hsized := sized_iff.mpr hx
      rw [extent_of_infinity hy, hx.extent_eq, lt_iff, hy]
      generalize x.toModel.unpack = u at hsized
      cases hsized <;> exact iff_of_true rfl (WithTop.coe_lt_top _)
  · rw [extent_of_infinity hx, lt_iff, hx]
    obtain hy | hy := amount_or_infinity hy
    · have hsized := sized_iff.mpr hy
      generalize y.toModel.unpack = u at hsized
      cases hsized <;> exact iff_of_false nofun not_top_lt
    · rw [hy]
      exact iff_of_false nofun not_top_lt

theorem nonneg_of_infinity (h : x.toModel.unpack = .infinity .positive) : 0.0 ≤ x := by
  rw [nonneg_iff, h]
  exact .infinity

theorem nonneg_of_pos (h : 0.0 < x) : 0.0 ≤ x := by
  obtain hinfinite | ⟨m, e, hm, hfinite, -⟩ := unpack_of_pos h
  · exact nonneg_of_infinity hinfinite
  · rw [nonneg_iff, hfinite]
    exact .finite

/-- What is above a float that is not negative is not negative either. -/
theorem nonneg_of_le (hx : 0.0 ≤ x) (h : x ≤ y) : 0.0 ≤ y := by
  rw [le_iff] at h
  rw [nonneg_iff] at hx ⊢
  generalize x.toModel.unpack = u at hx h
  generalize y.toModel.unpack = v at h
  cases v with
  | notANumber => cases hx <;> cases h
  | zero s => exact .zero s
  | infinity s =>
    cases s with
    | positive => exact .infinity
    | negative => cases hx <;> cases h
  | finite s m e hm =>
    cases s with
    | positive => exact .finite
    | negative => cases hx <;> cases h

theorem le_infinity (hx : 0.0 ≤ x) (hy : y.toModel.unpack = .infinity .positive) : x ≤ y := by
  rw [le_iff_extent hx (nonneg_of_infinity hy), extent_of_infinity hy]
  exact le_top

theorem le_trans_of_nonneg {z : Float} (hx : 0.0 ≤ x) (hxy : x ≤ y) (hyz : y ≤ z) : x ≤ z := by
  have hy := nonneg_of_le hx hxy
  have hz := nonneg_of_le hy hyz
  rw [le_iff_extent hx hz]
  exact ((le_iff_extent hx hy).mp hxy).trans ((le_iff_extent hy hz).mp hyz)

theorem lt_of_lt_of_le {z : Float} (hx : 0.0 ≤ x) (hy : 0.0 ≤ y) (hxy : x < y) (hyz : y ≤ z) :
    x < z := by
  have hz := nonneg_of_le hy hyz
  rw [lt_iff_extent hx hz]
  exact ((lt_iff_extent hx hy).mp hxy).trans_le ((le_iff_extent hy hz).mp hyz)

theorem lt_of_le_of_lt {z : Float} (hx : 0.0 ≤ x) (hz : 0.0 ≤ z) (hxy : x ≤ y) (hyz : y < z) :
    x < z := by
  have hy := nonneg_of_le hx hxy
  rw [lt_iff_extent hx hz]
  exact ((le_iff_extent hx hy).mp hxy).trans_lt ((lt_iff_extent hy hz).mp hyz)

theorem pos_of_le (hx : 0.0 < x) (h : x ≤ y) : 0.0 < y :=
  lt_of_lt_of_le (by decide) (nonneg_of_pos hx) hx h

theorem magnitude_pos (hx : 0.0 < x) (hamount : IsAmount x) : 0 < magnitude x := by
  have hzero : IsAmount 0.0 := by decide
  exact (hzero.lt_iff hamount).mp hx

end

/-! ### Products -/

section
variable {x y f g : Float}

/-- A float of at least one has a leading digit. -/
theorem leading_of_one_le (hf : 1.0 ≤ f) (hamount : IsAmount f) :
    ∃ n e hn, f.toModel.unpack = .finite .positive n e hn ∧ 2 ^ 52 ≤ n := by
  have hone := (le_iff_noLess unpack_one).mp hf
  have hsized := sized_iff.mpr hamount
  generalize hunpack : f.toModel.unpack = u at hone hsized
  cases hone with
  | infinity => cases hsized
  | @finite n e hn h =>
    have hleading := (canonical_of_unpack hunpack).leading
    exact ⟨n, e, hn, rfl, by omega⟩

/-- A product of amounts is rounded, and any other product is infinite. -/
theorem mul_cases (hx : 0.0 < x) (hf : 1.0 ≤ f) :
    (IsAmount x ∧ IsAmount f ∧ Gives (magnitude x * magnitude f) (x * f)) ∨
      (extent x = ⊤ ∨ extent f = ⊤) ∧ (x * f).toModel.unpack = .infinity .positive := by
  have hone : (0.0 : Float) < 1.0 := by decide
  have hmul {u v : UnpackedFloat} (hu : x.toModel.unpack = u) (hv : f.toModel.unpack = v)
      (huv : UnpackedFloat.mul Format.binary64 u v = .infinity .positive) :
      (x * f).toModel.unpack = .infinity .positive := by
    rw [unpack_mul, hu, hv, huv]
    exact unpack_pack_infinity .positive
  obtain hfinite | hinfinite := amount_or_infinity (nonneg_of_pos (pos_of_le hone hf))
  · obtain ⟨n, e, hn, hunpack, hleading⟩ := leading_of_one_le hf hfinite
    obtain hamount | hlarge := amount_or_infinity (nonneg_of_pos hx)
    · exact .inl ⟨hamount, hfinite, hamount.mul hunpack hleading⟩
    · exact .inr ⟨.inl (extent_of_infinity hlarge), hmul hlarge hunpack rfl⟩
  · refine .inr ⟨.inr (extent_of_infinity hinfinite), ?_⟩
    obtain hlarge | ⟨m, k, hm, hunpack, -⟩ := unpack_of_pos hx
    · exact hmul hlarge hinfinite rfl
    · exact hmul hunpack hinfinite rfl

theorem nonneg_mul_of_one_le (hx : 0.0 < x) (hf : 1.0 ≤ f) : 0.0 ≤ x * f := by
  obtain ⟨-, -, hgives⟩ | ⟨-, hinfinite⟩ := mul_cases hx hf
  · exact hgives.nonneg
  · exact nonneg_of_infinity hinfinite

/-- **Products with a factor of at least one are monotone in both operands.** -/
theorem mul_mono_of_one_le (hx : 0.0 < x) (hxy : x ≤ y) (hf : 1.0 ≤ f) (hfg : f ≤ g) :
    x * f ≤ y * g := by
  have hone : (0.0 : Float) < 1.0 := by decide
  have hxs := nonneg_of_pos hx
  have hfs := nonneg_of_pos (pos_of_le hone hf)
  have hg := le_trans_of_nonneg (nonneg_of_pos hone) hf hfg
  obtain ⟨hy', hg', hgives⟩ | ⟨-, hinfinite⟩ := mul_cases (pos_of_le hx hxy) hg
  · -- what is below an amount is an amount
    have hbelow {a b : Float} (ha : 0.0 ≤ a) (hb : IsAmount b) (hab : a ≤ b) : extent a ≠ ⊤ := by
      have hle := (le_iff_extent ha hb.nonneg).mp hab
      rw [hb.extent_eq] at hle
      exact ne_top_of_le_ne_top (WithTop.coe_ne_top) hle
    obtain ⟨hx', hf', hgives'⟩ | ⟨hinfinite, -⟩ := mul_cases hx hf
    · have hxpos := magnitude_pos hx hx'
      have hfpos := magnitude_pos (pos_of_le hone hf) hf'
      have hxle := (hx'.le_iff hy').mp hxy
      have hfle := (hf'.le_iff hg').mp hfg
      refine hgives'.mono_of_le hgives (mul_le_mul hxle hfle hfpos.le (hxpos.le.trans hxle))
        fun hsame => .inl ?_
      have hxsame : magnitude x = magnitude y := by
        refine hxle.antisymm (not_lt.mp fun hlt => hsame.not_lt ?_)
        exact mul_lt_mul hlt hfle hfpos (hxpos.le.trans hxle)
      have hfsame : magnitude f = magnitude g := by
        rw [hxsame] at hsame
        exact mul_left_cancel₀ (hxsame ▸ hxpos).ne' hsame
      rw [hx'.eq_of_magnitude hy' hxsame hxpos, hf'.eq_of_magnitude hg' hfsame hfpos]
    · exact absurd hinfinite (not_or.mpr ⟨hbelow hxs hy' hxy, hbelow hfs hg' hfg⟩)
  · exact le_infinity (nonneg_mul_of_one_le hx hf) hinfinite

end

/-! ### One and a part -/

/-- **One and a part of a float** is monotone in that float. The part is no larger than the whole. -/
theorem one_add_div_mono {s t c : Float} (hs : 0.0 ≤ s) (hst : s ≤ t) (hc : IsAmount c)
    (hone : 1.0 ≤ c) : 1.0 + s / c ≤ 1.0 + t / c := by
  have hunit : IsAmount 1.0 := by decide
  have hsize : 1 ≤ magnitude c := by
    have hle := (hunit.le_iff hc).mp hone
    rwa [magnitude_of_unpack unpack_one, value_one] at hle
  have hpart {a : Float} (ha : IsAmount a) : IsAmount (a / c) :=
    (ha.div hc (zero_lt_one.trans_le hsize)).isAmount_of_le ha
      (div_le_self ha.magnitude_nonneg hsize)
  obtain ht | ht := amount_or_infinity (nonneg_of_le hs hst)
  · obtain hs | hs := amount_or_infinity hs
    · exact hunit.add_mono (hpart hs) (hpart ht)
        (hs.div_mono ht hc (zero_lt_one.trans_le hsize) hst)
    · exact absurd hst (ht.infinity hs).2
  · have hquotient := infinity_div ht hc (zero_lt_one.trans_le hsize)
    have hsum : (1.0 + t / c).toModel.unpack = .infinity .positive := by
      rw [unpack_add, unpack_one, hquotient]
      exact unpack_pack_infinity .positive
    have hquotients := nonneg_div hs (pos_of_le (by decide) hone) hc.finite
    have hsums := nonneg_add hunit.nonneg hquotients
    exact le_infinity hsums hsum

end Stopwatch.Decimal
