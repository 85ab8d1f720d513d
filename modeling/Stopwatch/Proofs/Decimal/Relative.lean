import Mathlib
import Stopwatch.Proofs.Decimal.Operations

/-!
# Quotients and relative differences

Two positive floats can be compared by their quotient, although it is rounded: different
floats differ by so much that the quotient does not become one. Their relative difference in
percent has the sign of the exact one, and is zero only for equal floats.

- `IsTime`: what an elapsed time may be: positive, or zero without a sign;
- `div_lt_one_iff`, `one_lt_div_iff`: the quotient of two positive floats;
- `Tells`: a float that is no closer to zero than so much, with a sign; with what operations
  do to it;
- `tells_percent`: relative differences in percent.
-/

namespace Stopwatch.Decimal

open Float.Model (Format totalExponent UnpackedFloat)
open Float.Model.UnpackedFloat

/-! ### Kinds of floats -/

/-- A positive float, or zero without a minus sign. -/
def IsTime (x : Float) : Prop := 0.0 < x ∨ x = 0.0

instance (x : Float) : Decidable (IsTime x) := inferInstanceAs (Decidable (_ ∨ _))

/-- The parts of a float determine its bits. -/
theorem packComponents_unpack (bits : BitVec 64) :
    packComponents Format.binary64 (.ofBitVec (@unpackSign Format.binary64 bits))
      (@unpackExponent Format.binary64 bits) (@unpackMantissa Format.binary64 bits) = bits := by
  have hsign (v : BitVec 1) : (Sign.ofBitVec v).toBitVec = v := by
    revert v
    decide
  unfold packComponents
  rw [hsign]
  refine BitVec.eq_of_getLsbD_eq fun i hi => ?_
  have hi : i < 64 := hi
  rw [BitVec.getLsbD_append, BitVec.getLsbD_append]
  simp only [unpackSign, unpackExponent, unpackMantissa, BitVec.getLsbD_cast,
    BitVec.getLsbD_extractLsb]
  grind

theorem bits_of_unpack_zero {bits : BitVec 64} {s : Sign}
    (h : unpack Format.binary64 bits = .zero s) : bits = packedZero Format.binary64 s := by
  rw [← packComponents_unpack bits]
  simp only [unpack] at h
  split at h
  · split at h <;> cases h
  split at h
  · rename_i hexponent
    split at h
    · rename_i hmantissa
      injection h with hsign
      rw [hsign, hexponent, hmantissa]
      rfl
    · cases h
  · cases h

/-- There are only two zeros. -/
theorem eq_of_unpack_zero {x : Float} {s : Sign} (h : x.toModel.unpack = .zero s) :
    x = .ofModel (.pack (.zero s)) := by
  obtain ⟨⟨bits, hvalid⟩⟩ := x
  obtain ⟨bits⟩ := bits
  obtain rfl := bits_of_unpack_zero h
  rfl

/-- A finite float that is not negative is zero or has digits. -/
theorem unpack_of_nonneg {x : Float} (hx : 0.0 ≤ x) (hfinite : isFinite x = true) :
    x = 0.0 ∨ x = -0.0 ∨ ∃ m e hm, x.toModel.unpack = .finite .positive m e hm := by
  rw [nonneg_iff] at hx
  have hbelow := isFinite_iff_below.mp hfinite
  unfold Below at hbelow
  generalize hunpack : x.toModel.unpack = u at hx hbelow
  cases hx with
  | zero s =>
    cases s with
    | positive => exact .inl (eq_of_unpack_zero hunpack)
    | negative => exact .inr (.inl (eq_of_unpack_zero hunpack))
  | @finite m e hm => exact .inr (.inr ⟨m, e, hm, rfl⟩)
  | infinity => cases hbelow

/-! ### Quotients -/

section
variable {x y : Float} {m n : Nat} {e f : Int} {hm : 0 < m} {hn : 0 < n}

theorem rounded_div (hx : x.toModel.unpack = .finite .positive m e hm)
    (hy : y.toModel.unpack = .finite .positive n f hn) :
    Rounded .positive (value m e / value n f) (x / y).toModel.unpack := by
  rw [unpack_div, hx, hy]
  exact rounded_quotient .positive .positive hm hn e f

theorem lt_iff_value (hx : x.toModel.unpack = .finite .positive m e hm)
    (hy : y.toModel.unpack = .finite .positive n f hn) : x < y ↔ value m e < value n f :=
  lt_iff_of_packed (packed_of_unpack hx) (packed_of_unpack hy)
    (.inl (value_lt_large (canonical_of_unpack hx) (exponent_le_of_unpack hx)))

/-- **A quotient is below one exactly if the dividend is below the divisor.** -/
theorem div_lt_one_iff (hx : x.toModel.unpack = .finite .positive m e hm)
    (hy : y.toModel.unpack = .finite .positive n f hn) : x / y < 1.0 ↔ x < y := by
  obtain ⟨q, hnearest, hpacked⟩ := rounded_div hx hy
  have hpos := value_pos hn f
  rw [lt_iff_of_packed hpacked packed_one (.inr one_lt_large), lt_iff_value hx hy]
  constructor
  · intro hlt
    by_contra hle
    have hone := hnearest.one_le ((one_le_div hpos).mpr (not_lt.mp hle))
    exact absurd hlt hone.not_gt
  · intro hlt
    have hgap := canonical_gap (canonical_of_unpack hx) (canonical_of_unpack hy) hlt
    refine hnearest.lt_one ?_
    rw [div_le_iff₀ hpos, sub_mul, one_mul, one_div_mul_eq_div]
    linarith

/-- **A quotient is above one exactly if the dividend is above the divisor.** -/
theorem one_lt_div_iff (hx : x.toModel.unpack = .finite .positive m e hm)
    (hy : y.toModel.unpack = .finite .positive n f hn) : 1.0 < x / y ↔ y < x := by
  obtain ⟨q, hnearest, hpacked⟩ := rounded_div hx hy
  have hpos := value_pos hn f
  rw [lt_iff_of_packed packed_one hpacked (.inl one_lt_large), lt_iff_value hy hx]
  constructor
  · intro hlt
    by_contra hle
    have hone := hnearest.le_one ((div_le_one hpos).mpr (not_lt.mp hle))
    exact absurd hlt hone.not_gt
  · intro hlt
    have hgap := canonical_gap (canonical_of_unpack hy) (canonical_of_unpack hx) hlt
    have hsmall : value n f / 2 ^ 53 < value m e / 2 ^ 53 :=
      div_lt_div_of_pos_right hlt (by positivity)
    refine hnearest.one_lt ?_
    rw [lt_div_iff₀ hpos, add_mul, one_mul, one_div_mul_eq_div]
    linarith

end

/-- Of a number and what it divides one into, one is at least one. -/
theorem one_le_one_div {r : Float} {q : ℚ} (h : Packed .positive q r.toModel.unpack)
    (hq : q < 1) : 1.0 ≤ 1.0 / r := by
  generalize hunpack : r.toModel.unpack = u at h
  cases h with
  | zero =>
    rw [le_iff, unpack_div, hunpack]
    decide
  | @finite m e hm hcanonical he =>
    obtain ⟨p, hnearest, hpacked⟩ := rounded_div unpack_one hunpack
    rw [le_iff_of_packed packed_one hpacked (.inl one_lt_large)]
    refine hnearest.one_le ?_
    rw [value_one]
    exact (one_le_div (value_pos hm e)).mpr hq.le
  | infinity hlarge =>
    exact absurd hq (one_lt_large.le.trans hlarge).not_gt

/-! ### Sizes -/

/-- A float with this sign that is at least `y` in size. -/
def Tells (s : Sign) (y : ℚ) (u : UnpackedFloat) : Prop := ∃ q, y ≤ q ∧ Packed s q u

section
variable {s : Sign} {x y : ℚ} {u : UnpackedFloat} {n : Nat} {f : Int}

theorem Tells.mono (h : Tells s y u) (hle : x ≤ y) : Tells s x u := by
  obtain ⟨q, hq, hpacked⟩ := h
  exact ⟨q, hle.trans hq, hpacked⟩

theorem tells_infinity (s : Sign) (y : ℚ) : Tells s y (.infinity s) :=
  ⟨max y (2 ^ 1024), le_max_left .., .infinity (le_max_right ..)⟩

theorem Rounded.tells (h : Rounded s x u) (hx : 2 ^ (-1074 : Int) ≤ x) : Tells s (x / 2) u := by
  obtain ⟨q, hnearest, hpacked⟩ := h
  exact ⟨q, hnearest.half_le hx, hpacked⟩

theorem div_positive (s : Sign) : s / .positive = s := by cases s <;> rfl

theorem mul_positive (s : Sign) : s * .positive = s := by cases s <;> rfl

theorem Tells.div (h : Tells s y u) (hn : 0 < n) (hy : 0 < y)
    (hlow : 2 ^ (-1074 : Int) ≤ y / value n f) :
    Tells s (y / value n f / 2) (unpack Format.binary64 (UnpackedFloat.pack Format.binary64
      (UnpackedFloat.div Format.binary64 u (.finite .positive n f hn)))) := by
  obtain ⟨q, hq, hpacked⟩ := h
  cases hpacked with
  | zero => exact absurd hy hq.not_gt
  | @finite m e hm hcanonical he =>
    have hle : y / value n f ≤ value m e / value n f :=
      div_le_div_of_nonneg_right hq (value_pos hn f).le
    have hrounded := rounded_quotient s .positive hm hn e f
    rw [div_positive] at hrounded
    exact (hrounded.tells (hlow.trans hle)).mono (div_le_div_of_nonneg_right hle two_pos.le)
  | infinity hlarge =>
    have hinfinity : UnpackedFloat.div Format.binary64 (.infinity s)
        (.finite .positive n f hn) = .infinity s := by
      cases s <;> rfl
    rw [hinfinity, unpack_pack_infinity]
    exact tells_infinity s _

theorem Tells.mul (h : Tells s y u) (hn : 0 < n) (hy : 0 < y)
    (hlow : 2 ^ (-1074 : Int) ≤ y * value n f) (hleading : 2 ^ 52 ≤ n) :
    Tells s (y * value n f / 2) (unpack Format.binary64 (UnpackedFloat.pack Format.binary64
      (UnpackedFloat.mul Format.binary64 u (.finite .positive n f hn)))) := by
  obtain ⟨q, hq, hpacked⟩ := h
  cases hpacked with
  | zero => exact absurd hy hq.not_gt
  | @finite m e hm hcanonical he =>
    have hle : y * value n f ≤ value m e * value n f :=
      mul_le_mul_of_nonneg_right hq (value_pos hn f).le
    have hrounded := rounded_product s .positive hm hn e f hleading
    rw [mul_positive] at hrounded
    exact (hrounded.tells (hlow.trans hle)).mono (div_le_div_of_nonneg_right hle two_pos.le)
  | infinity hlarge =>
    have hinfinity : UnpackedFloat.mul Format.binary64 (.infinity s)
        (.finite .positive n f hn) = .infinity s := by
      cases s <;> rfl
    rw [hinfinity, unpack_pack_infinity]
    exact tells_infinity s _

/-- What tells something has its sign. -/
theorem Tells.compare_zero (h : Tells s y u) (hy : 0 < y) :
    u.compare (.zero .positive) = some (if s == .positive then .gt else .lt) := by
  obtain ⟨q, hq, hpacked⟩ := h
  cases hpacked with
  | zero => exact absurd hy hq.not_gt
  | finite _ _ => cases s <;> rfl
  | infinity _ => cases s <;> rfl

end

/-! ### Relative differences -/

/-- Different floats are at least as far apart as zero and the least positive one. -/
theorem canonical_apart {m n : Nat} {e f : Int} (hm : Canonical m e) (hn : Canonical n f)
    (h : value m e ≠ value n f) : 2 ^ (-1074 : Int) ≤ |value m e - value n f| := by
  have hleast := hm.least
  have hleast' := hn.least
  have hexponent : -1074 + ((e + 1074).toNat : Int) = e := by omega
  have hexponent' : -1074 + ((f + 1074).toNat : Int) = f := by omega
  have hvalue := value_shift m (e + 1074).toNat (-1074)
  have hvalue' := value_shift n (f + 1074).toNat (-1074)
  rw [hexponent] at hvalue
  rw [hexponent'] at hvalue'
  rw [← hvalue, ← hvalue'] at h ⊢
  exact two_zpow_le_sub (fun hsame => h (by rw [hsame])) (-1074)

theorem unpack_hundred : (100.0 : Float).toModel.unpack =
    .finite .positive 7036874417766400 (-46) (by decide) := by
  rfl

/-- The relative difference to a positive float, in percent. -/
def percent (c b : Float) : Float := (c - b) / b * 100.0

section
variable {c b : Float} {n : Nat} {f : Int} {hn : 0 < n}

/-- Unless a difference is small compared with the divisor, the percentage tells its sign. -/
theorem tells_percent_of_difference {s : Sign} (hb : b.toModel.unpack = .finite .positive n f hn)
    (h : Tells s (value n f / 2 ^ 54) (c - b).toModel.unpack) :
    Tells s (1 / 2 ^ 54) (percent c b).toModel.unpack := by
  have hpos := value_pos hn f
  have hleast : (2 : ℚ) ^ (-1074 : Int) ≤ 2 ^ (-54 : Int) :=
    zpow_le_zpow_right₀ one_le_two (by decide)
  have hsmall : (2 : ℚ) ^ (-54 : Int) = 1 / 2 ^ 54 := by norm_num
  rw [hsmall] at hleast
  have hexact : value n f / 2 ^ 54 / value n f = 1 / 2 ^ 54 := by
    field_simp
  have hquotient := h.div hn (by positivity) (by rw [hexact]; exact hleast)
  rw [hexact, ← hb] at hquotient
  have hhundred : value 7036874417766400 (-46) = 100 := by norm_num [value]
  have hproduct := hquotient.mul (n := 7036874417766400) (f := -46) (by decide)
    (by positivity) (by rw [hhundred]; linarith) (by decide)
  rw [hhundred, ← unpack_hundred] at hproduct
  exact hproduct.mono (by norm_num)

/-- **A relative difference tells which of two different positive floats is the larger.** -/
theorem tells_percent {m : Nat} {e : Int} {hm : 0 < m}
    (hc : c.toModel.unpack = .finite .positive m e hm)
    (hb : b.toModel.unpack = .finite .positive n f hn) (hne : value m e ≠ value n f) :
    Tells (if value m e < value n f then .negative else .positive) (1 / 2 ^ 54)
      (percent c b).toModel.unpack := by
  have hrounded := rounded_difference hm hn hne
  have hcanonical := canonical_of_unpack hc
  have hcanonical' := canonical_of_unpack hb
  have hdifference := hrounded.tells (canonical_apart hcanonical hcanonical' hne)
  rw [← hc, ← hb, ← unpack_sub] at hdifference
  refine tells_percent_of_difference hb (hdifference.mono ?_)
  -- whichever is larger, the gap is a fraction of the divisor
  obtain hlt | hgt := lt_or_gt_of_ne hne
  · have hgap := canonical_gap hcanonical hcanonical' hlt
    rw [abs_of_neg (by linarith)]
    linarith
  · have hgap := canonical_gap hcanonical' hcanonical hgt
    rw [abs_of_pos (by linarith)]
    linarith

/-- Zero is smaller than a positive float by all of it. -/
theorem tells_percent_zero {s : Sign} (hc : c.toModel.unpack = .zero s)
    (hb : b.toModel.unpack = .finite .positive n f hn) :
    Tells .negative (1 / 2 ^ 54) (percent c b).toModel.unpack := by
  have hpacked : Packed .negative (value n f) (c - b).toModel.unpack := by
    rw [unpack_sub, hc, hb]
    exact packed_pack .negative (canonical_of_unpack hb)
  have hpos := value_pos hn f
  exact tells_percent_of_difference hb ⟨_, by linarith, hpacked⟩

/-- Equal floats do not differ. -/
theorem percent_same (hc : c.toModel.unpack = .finite .positive n f hn)
    (hb : b.toModel.unpack = .finite .positive n f hn) : percent c b = 0.0 := by
  have hsub : (c - b).toModel.unpack = .zero .positive := by
    rw [unpack_sub, hc, hb]
    simp only [UnpackedFloat.sub, Sign.apply, sub_self]
    exact unpack_pack_zero .positive
  have hquotient : ((c - b) / b).toModel.unpack = .zero .positive := by
    rw [unpack_div, hsub, hb]
    exact unpack_pack_zero .positive
  show Float.ofModel (.pack (UnpackedFloat.mul Format.binary64 ((c - b) / b).toModel.unpack
    (100.0 : Float).toModel.unpack)) = 0.0
  rw [hquotient]
  rfl

end

end Stopwatch.Decimal
