import Mathlib
import Stopwatch.Proofs.Decimal.Rounding

/-!
# Rounding to the nearest float

Exact results are rational numbers. The digits that an operation drops are kept as two bits,
which tell on which side of the half way to the next digit the exact result lies. So rounding
takes it to the nearest float.

- `value`: the number that digits and an exponent stand for;
- `Represents`: what an extended mantissa says of the exact result;
- `Nearest`: no float is nearer, and the error is small; with what follows for the order;
- `Packed`: what becomes of a rounded number, which may be too large for a finite float;
- `Rounded`, `rounded_roundWithAccuracy`: a float that is an exact result, rounded.
-/

namespace Stopwatch.Decimal

open Float.Model (Format totalExponent UnpackedFloat)
open Float.Model.UnpackedFloat

/-! ### Values -/

/-- The number with the digits `m` and the exponent `e`. -/
def value (m : Nat) (e : Int) : ℚ := m * 2 ^ e

theorem two_zpow_pos (e : Int) : (0 : ℚ) < 2 ^ e := zpow_pos (by norm_num) e

theorem value_zero (e : Int) : value 0 e = 0 := by simp [value]

theorem value_pos {m : Nat} (hm : 0 < m) (e : Int) : 0 < value m e :=
  mul_pos (Nat.cast_pos.mpr hm) (two_zpow_pos e)

theorem value_mono {m n : Nat} (h : m ≤ n) (e : Int) : value m e ≤ value n e :=
  mul_le_mul_of_nonneg_right (Nat.cast_le.mpr h) (two_zpow_pos e).le

theorem value_mul (m n : Nat) (e f : Int) : value m e * value n f = value (m * n) (e + f) := by
  unfold value
  rw [zpow_add₀ two_ne_zero, Nat.cast_mul]
  ring

/-- Digits that are zero can be appended. -/
theorem value_shift (m k : Nat) (e : Int) : value (m * 2 ^ k) e = value m (e + k) := by
  unfold value
  rw [zpow_add₀ two_ne_zero, zpow_natCast, Nat.cast_mul, Nat.cast_pow, Nat.cast_ofNat]
  ring

theorem value_two_pow (k : Nat) (e : Int) : value (2 ^ k) e = 2 ^ (k + e) := by
  unfold value
  rw [Nat.cast_pow, Nat.cast_ofNat, zpow_add₀ two_ne_zero, zpow_natCast]

/-- Distinct numbers with the same exponent are that far apart. -/
theorem two_zpow_le_sub {m n : Nat} (h : m ≠ n) (e : Int) : 2 ^ e ≤ |value m e - value n e| := by
  have hne : (m : Int) - n ≠ 0 := by omega
  have hone : (1 : ℚ) ≤ |(m : ℚ) - n| := by
    have habs := Int.one_le_abs hne
    exact_mod_cast habs
  unfold value
  rw [← sub_mul, abs_mul, abs_of_pos (two_zpow_pos e)]
  exact le_mul_of_one_le_left (two_zpow_pos e).le hone

/-- The exponent alone makes a number larger that has a leading digit. -/
theorem value_lt_of_exponent {m n : Nat} {e f : Int} (hm : m < 2 ^ 53) (hn : 2 ^ 52 ≤ n)
    (h : e < f) : value m e < value n f := by
  have hstep : value (2 ^ 53) e ≤ value (2 ^ 52) f := by
    rw [show 2 ^ 53 = 2 ^ 52 * 2 ^ 1 from rfl, value_shift]
    exact mul_le_mul_of_nonneg_left (zpow_le_zpow_right₀ one_le_two (by omega))
      (Nat.cast_nonneg _)
  calc value m e < value (2 ^ 53) e :=
        mul_lt_mul_of_pos_right (Nat.cast_lt.mpr hm) (two_zpow_pos e)
    _ ≤ value (2 ^ 52) f := hstep
    _ ≤ value n f := value_mono hn f

/-- Floats are compared by their exponents first, and this is the order of the numbers. -/
theorem compare_value {m n : Nat} {e f : Int} (hm : Canonical m e) (hn : Canonical n f) :
    (compare e f).then (compare m n) = compare (value m e) (value n f) := by
  obtain hlt | rfl | hgt := Int.lt_trichotomy e f
  · have hleading := hn.leading
    have hleast := hm.least
    rw [Int.compare_eq_lt.mpr hlt]
    exact (compare_lt_iff_lt.mpr (value_lt_of_exponent hm.lt (by omega) hlt)).symm
  · have hscale : compare (value m e) (value n e) = compare m n := by
      unfold value
      obtain hlt | rfl | hgt := Nat.lt_trichotomy m n
      · rw [compare_lt_iff_lt.mpr hlt, compare_lt_iff_lt]
        exact mul_lt_mul_of_pos_right (Nat.cast_lt.mpr hlt) (two_zpow_pos e)
      · rw [compare_eq_iff_eq.mpr rfl, compare_eq_iff_eq.mpr rfl]
      · rw [compare_gt_iff_gt.mpr hgt, compare_gt_iff_gt]
        exact mul_lt_mul_of_pos_right (Nat.cast_lt.mpr hgt) (two_zpow_pos e)
    rw [Int.compare_eq_eq.mpr rfl, hscale]
    rfl
  · have hleading := hm.leading
    have hleast := hn.least
    rw [Int.compare_eq_gt.mpr hgt]
    exact (compare_gt_iff_gt.mpr (value_lt_of_exponent hn.lt (by omega) hgt)).symm

/-- Different floats stand for different numbers. -/
theorem canonical_inj {m n : Nat} {e f : Int} (hm : Canonical m e) (hn : Canonical n f)
    (h : value m e = value n f) : m = n ∧ e = f := by
  have hcompare := compare_value hm hn
  rw [compare_eq_iff_eq.mpr h, Ordering.then_eq_eq, Int.compare_eq_eq, Nat.compare_eq_eq]
    at hcompare
  exact hcompare.symm

/-! ### The bits that are kept of dropped digits -/

/-- The exact result `x` of an operation, as its leading digits and two bits tell it. -/
def Represents (em : ExtendedMantissa) (x : ℚ) : Prop :=
  match em.roundBit, em.stickyBit with
  | false, false => x = em.mantissa
  | false, true => (em.mantissa : ℚ) < x ∧ x < em.mantissa + 1 / 2
  | true, false => x = em.mantissa + 1 / 2
  | true, true => (em.mantissa : ℚ) + 1 / 2 < x ∧ x < em.mantissa + 1

theorem represents_exact (m : Nat) :
    Represents (ExtendedMantissa.ofMantissaAndAccuracy m .exact) m := rfl

theorem Represents.mantissa_le {em : ExtendedMantissa} {x : ℚ} (h : Represents em x) :
    (em.mantissa : ℚ) ≤ x := by
  obtain ⟨m, roundBit, stickyBit⟩ := em
  cases roundBit <;> cases stickyBit <;> simp only [Represents] at h ⊢ <;> linarith

/-- Dropping one more digit halves the number of units. -/
theorem Represents.shiftRightOne {em : ExtendedMantissa} {x : ℚ} (h : Represents em x) :
    Represents em.shiftRightOne (x / 2) := by
  obtain ⟨m, roundBit, stickyBit⟩ := em
  have hdigits : (m : ℚ) = 2 * ((m / 2 : Nat) : ℚ) + ((m % 2 : Nat) : ℚ) := by
    exact_mod_cast (Nat.div_add_mod m 2).symm
  -- the last digit becomes the first of the two bits, and these become the second
  obtain hlast | hlast := Nat.mod_two_eq_zero_or_one m <;> rw [hlast] at hdigits <;>
    cases roundBit <;> cases stickyBit <;>
    simp only [Represents, ExtendedMantissa.shiftRightOne, hlast] at h ⊢ <;>
    norm_num at h hdigits ⊢ <;> grind

theorem Represents.shiftRight {em : ExtendedMantissa} {x : ℚ} (h : Represents em x) (k : Nat) :
    Represents (em >>> k) (x / 2 ^ k) := by
  induction k with
  | zero =>
    rw [pow_zero, div_one]
    exact h
  | succ k ih =>
    rw [pow_succ, ← div_div]
    exact ih.shiftRightOne

/-- The rounded digits are off by half a unit at most. -/
theorem Represents.near {em : ExtendedMantissa} {x : ℚ} (h : Represents em x) :
    |(em.roundedMantissa : ℚ) - x| ≤ 1 / 2 := by
  obtain ⟨m, roundBit, stickyBit⟩ := em
  rw [abs_le]
  obtain hlast | hlast := Nat.mod_two_eq_zero_or_one m <;>
    cases roundBit <;> cases stickyBit <;>
    simp only [Represents, ExtendedMantissa.roundedMantissa, ExtendedMantissa.accuracy,
      Accuracy.roundToNearestEven, hlast] at h ⊢ <;>
    push_cast <;> constructor <;> linarith

/-- The digits of a quotient, and how its remainder compares with half the divisor. -/
theorem represents_quotient (a : Nat) {b : Nat} (hb : 0 < b) :
    Represents (ExtendedMantissa.ofMantissaAndAccuracy (a / b) (accuracyOfFraction (a % b) b))
      (a / b : ℚ) := by
  have hpos : (0 : ℚ) < b := Nat.cast_pos.mpr hb
  have hquotient : (a : ℚ) = b * ((a / b : Nat) : ℚ) + ((a % b : Nat) : ℚ) := by
    exact_mod_cast (Nat.div_add_mod a b).symm
  have hrest : ((a % b : Nat) : ℚ) < b := Nat.cast_lt.mpr (Nat.mod_lt a hb)
  have hlt (c : ℚ) : c < (a : ℚ) / b ↔ c * b < a := lt_div_iff₀ hpos
  have hgt (c : ℚ) : (a : ℚ) / b < c ↔ a < c * b := div_lt_iff₀ hpos
  have heq (c : ℚ) : (a : ℚ) / b = c ↔ a = c * b := div_eq_iff hpos.ne'
  unfold accuracyOfFraction
  split
  · rename_i hzero
    rw [hzero, Nat.cast_zero] at hquotient
    show (a : ℚ) / b = (a / b : Nat)
    rw [heq]
    linarith
  · rename_i hne
    have hrestpos : (0 : ℚ) < (a % b : Nat) := Nat.cast_pos.mpr (Nat.pos_of_ne_zero hne)
    rcases hcompare : compare (2 * (a % b)) b with _ | _ | _
    · have hhalf : (2 : ℚ) * (a % b : Nat) < b := by exact_mod_cast Nat.compare_eq_lt.mp hcompare
      show ((a / b : Nat) : ℚ) < a / b ∧ (a : ℚ) / b < (a / b : Nat) + 1 / 2
      rw [hlt, hgt]
      constructor <;> linarith
    · have hhalf : (2 : ℚ) * (a % b : Nat) = b := by exact_mod_cast Nat.compare_eq_eq.mp hcompare
      show (a : ℚ) / b = (a / b : Nat) + 1 / 2
      rw [heq]
      linarith
    · have hhalf : (b : ℚ) < 2 * (a % b : Nat) := by exact_mod_cast Nat.compare_eq_gt.mp hcompare
      show ((a / b : Nat) : ℚ) + 1 / 2 < a / b ∧ (a : ℚ) / b < (a / b : Nat) + 1
      rw [hlt, hgt]
      constructor <;> linarith

/-! ### The nearest float -/

/-- No float, with an exponent however large, is nearer to `x` than `q`; and `q` is off by one
part in `2 ^ 53` at most, unless it is among the least floats. -/
structure Nearest (x q : ℚ) : Prop where
  closest : ∀ {m e}, Canonical m e → |q - x| ≤ |value m e - x|
  error : |q - x| ≤ 2 ^ (-1075 : Int) ∨ |q - x| ≤ x / 2 ^ 53

/-- A number that is off by half a unit of its last digit, where that digit is as far from a
leading one as in a float. -/
structure OnGrid (x : ℚ) (r : Nat) (t : Int) : Prop where
  leading : value (2 ^ 52) t ≤ x ∨ t = -1074
  near : |value r t - x| ≤ 2 ^ t / 2

section
variable {x q : ℚ} {m : Nat} {e : Int}

/-- Of the numbers with the same exponent none is nearer. -/
theorem OnGrid.closest {r : Nat} {t : Int} (h : OnGrid x r t) (n : Nat) :
    |value r t - x| ≤ |value n t - x| := by
  by_cases hsame : n = r
  · rw [hsame]
  · have hapart := two_zpow_le_sub hsame t
    have hsum := abs_sub_le (value n t) x (value r t)
    rw [abs_sub_comm x] at hsum
    have hnear := h.near
    linarith

theorem OnGrid.nearest {r : Nat} {t : Int} (h : OnGrid x r t) : Nearest x (value r t) := by
  refine ⟨fun {m e} hcanonical => ?_, ?_⟩
  · by_cases hle : t ≤ e
    -- a number with a larger exponent is written with the smaller one
    · have hexponent : t + ((e - t).toNat : Int) = e := by omega
      have hsame := h.closest (m * 2 ^ (e - t).toNat)
      rwa [value_shift, hexponent] at hsame
    -- one with a smaller exponent is below the first one that has a leading digit here
    · have hleast := hcanonical.least
      have hleading := h.leading.resolve_right (by omega)
      have hbelow := value_lt_of_exponent hcanonical.lt le_rfl (Int.lt_of_not_ge hle)
      have hfirst := h.closest (2 ^ 52)
      rw [abs_of_nonpos (by linarith : value (2 ^ 52) t - x ≤ 0)] at hfirst
      rw [abs_of_nonpos (by linarith : value m e - x ≤ 0)]
      linarith
  · obtain hleading | rfl := h.leading
    · refine .inr (h.near.trans ?_)
      have hunit : value (2 ^ 52) t = 2 ^ 52 * 2 ^ t := by
        unfold value
        norm_num
      rw [hunit] at hleading
      rw [le_div_iff₀ (by positivity)]
      linarith
    · refine .inl (h.near.trans (le_of_eq ?_))
      rw [show (-1074 : Int) = -1075 + 1 by norm_num, zpow_add_one₀ two_ne_zero]
      exact mul_div_cancel_right₀ _ two_ne_zero

/-- Rounding does not go below a float that is no larger. -/
theorem Nearest.le_of_le (h : Nearest x q) (hcanonical : Canonical m e) (hle : value m e ≤ x) :
    value m e ≤ q := by
  by_contra hlt
  have hclosest := h.closest hcanonical
  rw [abs_of_nonpos (by linarith : q - x ≤ 0), abs_of_nonpos (by linarith : value m e - x ≤ 0)]
    at hclosest
  linarith

/-- Rounding does not go above a float that is no smaller. -/
theorem Nearest.le_of_ge (h : Nearest x q) (hcanonical : Canonical m e) (hle : x ≤ value m e) :
    q ≤ value m e := by
  by_contra hlt
  have hclosest := h.closest hcanonical
  rw [abs_of_nonneg (by linarith : 0 ≤ q - x), abs_of_nonneg (by linarith : 0 ≤ value m e - x)]
    at hclosest
  linarith

/-- Rounding loses less than half of a number that is not below the least float. -/
theorem Nearest.half_le (h : Nearest x q) (hx : 2 ^ (-1074 : Int) ≤ x) : x / 2 ≤ q := by
  have hleast : (2 : ℚ) ^ (-1074 : Int) = 2 ^ (-1075 : Int) * 2 := by
    rw [← zpow_add_one₀ two_ne_zero]
    norm_num
  have hpos := two_zpow_pos (-1075)
  obtain herror | herror := h.error <;> rw [abs_le] at herror
  · linarith
  · have hsmall : x / 2 ^ 53 ≤ x / 2 :=
      div_le_div_of_nonneg_left (by linarith) (by norm_num) (by norm_num)
    linarith

theorem value_one : value (2 ^ 52) (-52) = 1 := by
  norm_num [value]

/-- The floats around one. -/
theorem Nearest.le_one (h : Nearest x q) (hx : x ≤ 1) : q ≤ 1 := by
  rw [← value_one] at hx ⊢
  exact h.le_of_ge canonical_one hx

theorem Nearest.one_le (h : Nearest x q) (hx : 1 ≤ x) : 1 ≤ q := by
  rw [← value_one] at hx ⊢
  exact h.le_of_le canonical_one hx

theorem Nearest.lt_one (h : Nearest x q) (hx : x ≤ 1 - 1 / 2 ^ 53) : q < 1 := by
  have hvalue : value (2 ^ 53 - 1) (-53) = 1 - 1 / 2 ^ 53 := by
    norm_num [value]
  rw [← hvalue] at hx
  refine (h.le_of_ge ⟨by decide, by decide, .inl (by decide)⟩ hx).trans_lt ?_
  rw [hvalue]
  norm_num

theorem Nearest.one_lt (h : Nearest x q) (hx : 1 + 1 / 2 ^ 53 < x) : 1 < q := by
  have hvalue : value (2 ^ 52 + 1) (-52) = 1 + 1 / 2 ^ 52 := by
    norm_num [value]
  by_contra hle
  have hclosest := h.closest (m := 2 ^ 52 + 1) (e := -52) ⟨by decide, by decide, .inl (by decide)⟩
  rw [hvalue, abs_of_nonpos (by linarith : q - x ≤ 0)] at hclosest
  -- the number is nearer to the float after one, on whatever side of it
  obtain habs | habs := abs_cases (1 + 1 / 2 ^ 52 - x) <;> rw [habs.1] at hclosest <;> linarith

end

/-! ### Packing what was rounded -/

/-- What becomes of a rounded number: a finite float stands for it, unless it is too large. -/
inductive Packed (s : Sign) : ℚ → UnpackedFloat → Prop where
  | zero : Packed s 0 (.zero s)
  | finite {m : Nat} {e : Int} {hm : 0 < m} (h : Canonical m e) (he : e ≤ 971) :
      Packed s (value m e) (.finite s m e hm)
  | infinity {q : ℚ} (h : 2 ^ 1024 ≤ q) : Packed s q (.infinity s)

/-- The first number that is too large. -/
theorem value_large : value (2 ^ 52) 972 = 2 ^ 1024 := by
  rw [value_two_pow, ← zpow_natCast]
  norm_num

theorem one_lt_large : (1 : ℚ) < 2 ^ 1024 := one_lt_pow₀ one_lt_two (by decide)

theorem value_le_large {m : Nat} {e : Int} (hm : 2 ^ 52 ≤ m) (he : 971 < e) :
    2 ^ 1024 ≤ value m e := by
  rw [← value_large]
  exact mul_le_mul (Nat.cast_le.mpr hm) (zpow_le_zpow_right₀ one_le_two (by omega))
    (two_zpow_pos _).le (Nat.cast_nonneg _)

theorem value_lt_large {m : Nat} {e : Int} (h : Canonical m e) (he : e ≤ 971) :
    value m e < 2 ^ 1024 := by
  rw [← value_large]
  exact value_lt_of_exponent h.lt le_rfl (by omega)

theorem packed_pack (s : Sign) {m : Nat} {e : Int} {hm : 0 < m} (h : Canonical m e) :
    Packed s (value m e)
      (unpack Format.binary64 (UnpackedFloat.pack Format.binary64 (.finite s m e hm))) := by
  by_cases hlarge : e ≤ 971
  · rw [unpack_pack h hlarge]
    exact .finite h hlarge
  · have hleading := h.leading
    rw [unpack_pack_large (Int.lt_of_not_ge hlarge)]
    exact .infinity (value_le_large (by omega) (Int.lt_of_not_ge hlarge))

theorem unpack_pack_zero (s : Sign) :
    unpack Format.binary64 (UnpackedFloat.pack Format.binary64 (.zero s)) = .zero s := by
  cases s <;> rfl

theorem unpack_pack_infinity (s : Sign) :
    unpack Format.binary64 (UnpackedFloat.pack Format.binary64 (.infinity s)) = .infinity s :=
  unpack_packedInfinity s

theorem packed_carried (s : Sign) {m : Nat} {e : Int} {r : Nat} {t : Int} (h : Rounds m e r t) :
    Packed s (value r t)
      (unpack Format.binary64 (UnpackedFloat.pack Format.binary64 (carried s r t))) := by
  unfold carried
  split
  · rename_i hzero
    rw [hzero, value_zero, unpack_pack_zero]
    exact .zero
  split
  · rename_i hlt
    exact packed_pack s ⟨hlt, h.least, h.leading⟩
  · have hle := h.le
    have hleast := h.least
    obtain rfl : r = 2 ^ 53 := by omega
    -- the last digit is a zero, and is dropped
    rw [show 2 ^ 53 = 2 ^ 52 * 2 ^ 1 from rfl, value_shift]
    exact packed_pack s ⟨by decide, by omega, .inl le_rfl⟩

/-- The float is the exact result `x`, with this sign, rounded to the nearest. -/
def Rounded (s : Sign) (x : ℚ) (u : UnpackedFloat) : Prop := ∃ q, Nearest x q ∧ Packed s q u

/-- **Rounding takes an exact result to the nearest float**, provided that digits enough of it
are known. -/
theorem rounded_roundWithAccuracy (s : Sign) {m : Nat} {e : Int} (acc : Accuracy) {x : ℚ}
    (h : e ≤ Format.binary64.targetExponent (totalExponent m e))
    (hx : Represents (ExtendedMantissa.ofMantissaAndAccuracy m acc) (x / 2 ^ e)) :
    Rounded s x (unpack Format.binary64 (UnpackedFloat.pack Format.binary64
      (roundWithAccuracy Format.binary64 s m e acc))) := by
  generalize ht : Format.binary64.targetExponent (totalExponent m e) = t at h
  obtain ⟨hrounds, hround⟩ := roundWithAccuracy_eq_shifted s acc ht h rfl
  have hleading := div_two_pow_leading ht h
  have hshifted := hx.shiftRight (t - e).toNat
  have hunits : x / 2 ^ e / 2 ^ (t - e).toNat = x / 2 ^ t := by
    rw [div_div, ← zpow_natCast, ← zpow_add₀ two_ne_zero]
    congr 2
    omega
  rw [hunits] at hshifted
  have hpos := two_zpow_pos t
  refine ⟨_, OnGrid.nearest ⟨?_, ?_⟩, hround ▸ packed_carried s hrounds⟩
  · refine hleading.imp_left fun hleading => ?_
    have hmantissa := hshifted.mantissa_le
    rw [mantissa_shiftRight, mantissa_ofMantissaAndAccuracy, le_div_iff₀ hpos] at hmantissa
    exact (value_mono hleading t).trans hmantissa
  · have hnear := mul_le_mul_of_nonneg_right hshifted.near hpos.le
    have hscale (r : ℚ) : |r * 2 ^ t - x| = |r - x / 2 ^ t| * 2 ^ t := by
      rw [← abs_of_pos hpos, ← abs_mul, abs_of_pos hpos, sub_mul, div_mul_cancel₀ _ hpos.ne']
    unfold value
    rw [hscale]
    linarith

end Stopwatch.Decimal
