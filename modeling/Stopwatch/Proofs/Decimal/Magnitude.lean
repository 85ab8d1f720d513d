import Mathlib
import Stopwatch.Proofs.Decimal.Ranking

/-!
# Arithmetic of amounts

An amount is a finite float that is not negative. It stands for a number, its magnitude, and sums
and quotients of amounts are those of the magnitudes, rounded to the nearest float; what is too
large becomes infinite.

- `Representable`: the numbers that floats stand for, however large;
- `IsAmount`, `magnitude`; `IsAmount.le_iff`: amounts are compared as numbers;
- `Gives`: a number, rounded; `IsAmount.add`, `IsAmount.div`: sums and quotients;
- `Gives.sum_error`: a sum is off by one part in `2 ^ 53` at most, however small it is;
- `magnitude_ofNat`: counting up to `2 ^ 53` is exact.
-/

namespace Stopwatch.Decimal

open Float.Model (Format totalExponent UnpackedFloat)
open Float.Model.UnpackedFloat

/-! ### Numbers that floats stand for -/

/-- A number with 53 binary digits, or fewer with the least exponent. -/
def Representable (x : ℚ) : Prop := ∃ m e, Canonical m e ∧ value m e = x

/-- Fewer digits can be written with more of them. -/
theorem representable_value {n : Nat} {t : Int} (hn : n < 2 ^ 53) (ht : -1074 ≤ t) :
    Representable (value n t) := by
  obtain rfl | hpos := Nat.eq_zero_or_pos n
  · exact ⟨0, -1074, ⟨by decide, le_rfl, .inr rfl⟩, by rw [value_zero, value_zero]⟩
  have hlog := (Nat.log2_lt hpos.ne').mpr hn
  generalize hk : min (52 - n.log2) (t + 1074).toNat = k
  have hvalue : value (n * 2 ^ k) (t - k) = value n t := by
    rw [value_shift, sub_add_cancel]
  refine ⟨n * 2 ^ k, t - k, ⟨?_, by omega, ?_⟩, hvalue⟩
  · calc n * 2 ^ k < 2 ^ (n.log2 + 1) * 2 ^ k :=
          Nat.mul_lt_mul_of_pos_right Nat.lt_log2_self (Nat.two_pow_pos k)
      _ = 2 ^ (n.log2 + 1 + k) := (Nat.pow_add ..).symm
      _ ≤ 2 ^ 53 := Nat.pow_le_pow_right (by decide) (by omega)
  · by_cases hleast : t - k = -1074
    · exact .inr hleast
    · refine .inl ?_
      calc 2 ^ 52 = 2 ^ (n.log2 + k) := by congr 1; omega
        _ = 2 ^ n.log2 * 2 ^ k := Nat.pow_add ..
        _ ≤ n * 2 ^ k := Nat.mul_le_mul_right _ (Nat.log2_self_le hpos.ne')

section
variable {x y q : ℚ}

theorem Representable.double (h : Representable x) : Representable (2 * x) := by
  obtain ⟨m, e, hcanonical, rfl⟩ := h
  have hleast := hcanonical.least
  have hvalue : value m (e + 1) = 2 * value m e := by
    unfold value
    rw [zpow_add_one₀ two_ne_zero]
    ring
  rw [← hvalue]
  exact representable_value hcanonical.lt (by omega)

theorem Nearest.le_of_representable (h : Nearest x q) (hy : Representable y) (hle : y ≤ x) :
    y ≤ q := by
  obtain ⟨m, e, hcanonical, rfl⟩ := hy
  exact h.le_of_le hcanonical hle

theorem Nearest.ge_of_representable (h : Nearest x q) (hy : Representable y) (hle : x ≤ y) :
    q ≤ y := by
  obtain ⟨m, e, hcanonical, rfl⟩ := hy
  exact h.le_of_ge hcanonical hle

/-- What need not be rounded is not. -/
theorem Nearest.eq_of_representable (h : Nearest x q) (hx : Representable x) : q = x :=
  le_antisymm (h.ge_of_representable hx le_rfl) (h.le_of_representable hx le_rfl)

theorem nearest_self (hx : 0 ≤ x) : Nearest x x := by
  refine ⟨fun _ => ?_, .inr ?_⟩ <;> rw [sub_self, abs_zero]
  · exact abs_nonneg _
  · positivity

end

/-! ### Amounts -/

/-- What the digits of a float stand for, without its sign. -/
def numberOf : UnpackedFloat → ℚ
  | .finite _ m e _ => value m e
  | _ => 0

/-- The number that a finite float stands for, without its sign. -/
def magnitude (x : Float) : ℚ := numberOf x.toModel.unpack

theorem magnitude_of_unpack {x : Float} {s : Sign} {m : Nat} {e : Int} {hm : 0 < m}
    (h : x.toModel.unpack = .finite s m e hm) : magnitude x = value m e :=
  congrArg numberOf h

/-- A finite float that is not negative. -/
structure IsAmount (x : Float) : Prop where
  nonneg : 0.0 ≤ x
  finite : isFinite x = true

instance (x : Float) : Decidable (IsAmount x) :=
  decidable_of_iff (0.0 ≤ x ∧ isFinite x = true) ⟨fun h => ⟨h.1, h.2⟩, fun h => ⟨h.1, h.2⟩⟩

/-- What the bits of an amount can stand for. -/
inductive Sized : UnpackedFloat → Prop where
  | zero (s : Sign) : Sized (.zero s)
  | finite {m : Nat} {e : Int} (hm : 0 < m) (h : Canonical m e) (he : e ≤ 971) :
      Sized (.finite .positive m e hm)

theorem sized_iff {x : Float} : Sized x.toModel.unpack ↔ IsAmount x := by
  constructor
  · intro h
    suffices hparts : NotNegative x.toModel.unpack ∧ Within 971 x.toModel.unpack from
      ⟨nonneg_iff.mpr hparts.1, isFinite_iff_below.mpr hparts.2⟩
    generalize x.toModel.unpack = u at h
    cases h with
    | zero s => exact ⟨.zero s, .zero s⟩
    | finite hm h he => exact ⟨.finite, .finite _ _ hm he⟩
  · intro h
    obtain rfl | rfl | ⟨m, e, hm, hunpack⟩ := unpack_of_nonneg h.nonneg h.finite
    · exact .zero .positive
    · exact .zero .negative
    · rw [hunpack]
      exact .finite hm (canonical_of_unpack hunpack) (exponent_le_of_unpack hunpack)

section
variable {u v : UnpackedFloat}

theorem Sized.representable (h : Sized u) : Representable (numberOf u) := by
  cases h with
  | zero s => exact ⟨0, -1074, ⟨by decide, le_rfl, .inr rfl⟩, value_zero _⟩
  | finite hm h he => exact ⟨_, _, h, rfl⟩

theorem Sized.nonneg (h : Sized u) : 0 ≤ numberOf u := by
  cases h with
  | zero s => exact le_rfl
  | finite hm h he => exact (value_pos hm _).le

theorem Sized.lt_large (h : Sized u) : numberOf u < 2 ^ 1024 := by
  cases h with
  | zero s =>
    show (0 : ℚ) < _
    positivity
  | finite hm h he => exact value_lt_large h he

/-- Amounts are whole multiples of the least one. -/
theorem Sized.multiple (h : Sized u) : ∃ k : Nat, numberOf u = value k (-1074) := by
  cases h with
  | zero s => exact ⟨0, (value_zero _).symm⟩
  | @finite m e hm h he =>
    have hleast := h.least
    have hexponent : -1074 + ((e + 1074).toNat : Int) = e := by omega
    exact ⟨m * 2 ^ (e + 1074).toNat, by rw [value_shift, hexponent]; rfl⟩

theorem Sized.compare (hu : Sized u) (hv : Sized v) :
    u.compare v = some (Ord.compare (numberOf u) (numberOf v)) := by
  cases hu with
  | zero s =>
    cases hv with
    | zero s' => exact congrArg some (compare_eq_iff_eq.mpr rfl).symm
    | finite hn h he => exact congrArg some (compare_lt_iff_lt.mpr (value_pos hn _)).symm
  | finite hm h he =>
    cases hv with
    | zero s' => exact congrArg some (compare_gt_iff_gt.mpr (value_pos hm _)).symm
    | finite hn h' he' => exact congrArg some (compare_value h h')

end

namespace IsAmount

variable {x y : Float}

theorem magnitude_nonneg (hx : IsAmount x) : 0 ≤ magnitude x := (sized_iff.mpr hx).nonneg

theorem representable (hx : IsAmount x) : Representable (magnitude x) :=
  (sized_iff.mpr hx).representable

theorem lt_large (hx : IsAmount x) : magnitude x < 2 ^ 1024 := (sized_iff.mpr hx).lt_large

theorem multiple (hx : IsAmount x) : ∃ k : Nat, magnitude x = value k (-1074) :=
  (sized_iff.mpr hx).multiple

/-- **Amounts are compared as the numbers they stand for.** -/
theorem le_iff (hx : IsAmount x) (hy : IsAmount y) : x ≤ y ↔ magnitude x ≤ magnitude y := by
  rw [Decimal.le_iff, (sized_iff.mpr hx).compare (sized_iff.mpr hy), Option.any_some,
    Ordering.isLE_iff_ne_gt, compare_gt_iff_gt, not_lt]
  rfl

theorem lt_iff (hx : IsAmount x) (hy : IsAmount y) : x < y ↔ magnitude x < magnitude y := by
  rw [Decimal.lt_iff, (sized_iff.mpr hx).compare (sized_iff.mpr hy), Option.some.injEq,
    compare_lt_iff_lt]
  rfl

theorem le_trans {z : Float} (hx : IsAmount x) (hy : IsAmount y) (hz : IsAmount z) (hxy : x ≤ y)
    (hyz : y ≤ z) : x ≤ z :=
  (hx.le_iff hz).mpr (((hx.le_iff hy).mp hxy).trans ((hy.le_iff hz).mp hyz))

theorem lt_of_lt_of_le {z : Float} (hx : IsAmount x) (hy : IsAmount y) (hz : IsAmount z)
    (hxy : x < y) (hyz : y ≤ z) : x < z :=
  (hx.lt_iff hz).mpr (((hx.lt_iff hy).mp hxy).trans_le ((hy.le_iff hz).mp hyz))

/-- The order of the amounts is that of their places. -/
theorem le_of_rank_le (hx : IsAmount x) (hy : IsAmount y) (h : rank x ≤ rank y) : x ≤ y := by
  rw [hx.le_iff hy]
  by_contra hlt
  exact absurd h (rank_lt_of_lt ((hy.lt_iff hx).mpr (not_le.mp hlt))).not_ge

/-- What is infinite is above every amount. -/
theorem infinity (hx : IsAmount x) {r : Float} (hr : r.toModel.unpack = .infinity .positive) :
    x ≤ r ∧ ¬r ≤ x := by
  have hsized := sized_iff.mpr hx
  rw [Decimal.le_iff, Decimal.le_iff, hr]
  generalize x.toModel.unpack = u at hsized
  cases hsized <;> exact ⟨rfl, nofun⟩

end IsAmount

theorem isFinite_of_infinity {r : Float} (hr : r.toModel.unpack = .infinity .positive) :
    isFinite r = false := by
  by_contra hfinite
  have hbelow := isFinite_iff_below.mp (Bool.eq_true_of_not_eq_false hfinite)
  rw [Below, hr] at hbelow
  cases hbelow

/-! ### Rounding -/

/-- The float nearest to a number, which is infinite if the number is too large. -/
def Given (x : ℚ) (u : UnpackedFloat) : Prop :=
  ∃ q, Nearest x q ∧ (Sized u ∧ numberOf u = q ∨ u = .infinity .positive ∧ 2 ^ 1024 ≤ q)

def Gives (x : ℚ) (r : Float) : Prop := Given x r.toModel.unpack

theorem Rounded.given {x : ℚ} {u : UnpackedFloat} (h : Rounded .positive x u) : Given x u := by
  obtain ⟨q, hnearest, hpacked⟩ := h
  refine ⟨q, hnearest, ?_⟩
  cases hpacked with
  | zero => exact .inl ⟨.zero _, rfl⟩
  | finite h he => exact .inl ⟨.finite _ h he, rfl⟩
  | infinity h => exact .inr ⟨rfl, h⟩

theorem Sized.given {u : UnpackedFloat} (h : Sized u) : Given (numberOf u) u :=
  ⟨_, nearest_self h.nonneg, .inl ⟨h, rfl⟩⟩

/-- An amount is packed as it is. -/
theorem Sized.given_pack {u : UnpackedFloat} (h : Sized u) :
    Given (numberOf u) (unpack Format.binary64 (UnpackedFloat.pack Format.binary64 u)) := by
  have hsame : unpack Format.binary64 (UnpackedFloat.pack Format.binary64 u) = u := by
    cases h with
    | zero s => exact unpack_pack_zero s
    | finite hm h he => exact unpack_pack h he
  rw [hsame]
  exact h.given

theorem given_zero (s : Sign) :
    Given 0 (unpack Format.binary64 (UnpackedFloat.pack Format.binary64 (.zero s))) :=
  (Sized.zero s).given_pack

namespace Gives

variable {x : ℚ} {r a : Float}

theorem isAmount (h : Gives x r) (hfinite : isFinite r = true) : IsAmount r := by
  obtain ⟨q, -, ⟨hsized, -⟩ | ⟨hinfinite, -⟩⟩ := h
  · exact sized_iff.mp hsized
  · rw [isFinite_of_infinity hinfinite] at hfinite
    cases hfinite

theorem nearest (h : Gives x r) (hr : IsAmount r) : Nearest x (magnitude r) := by
  obtain ⟨q, hnearest, ⟨-, rfl⟩ | ⟨hinfinite, -⟩⟩ := h
  · exact hnearest
  · have hsized := sized_iff.mpr hr
    rw [hinfinite] at hsized
    cases hsized

theorem eq_infinity (h : Gives x r) (hfinite : isFinite r = false) :
    r.toModel.unpack = .infinity .positive := by
  obtain ⟨q, -, ⟨hsized, -⟩ | ⟨hinfinite, -⟩⟩ := h
  · rw [(sized_iff.mp hsized).finite] at hfinite
    cases hfinite
  · exact hinfinite

/-- What need not be rounded is not. -/
theorem eq_of_representable (h : Gives x r) (hx : Representable x) (hlt : x < 2 ^ 1024) :
    IsAmount r ∧ magnitude r = x := by
  obtain ⟨q, hnearest, ⟨hsized, hsize⟩ | ⟨-, hlarge⟩⟩ := h
  · exact ⟨sized_iff.mp hsized, hsize.trans (hnearest.eq_of_representable hx)⟩
  · rw [hnearest.eq_of_representable hx] at hlarge
    exact absurd hlt hlarge.not_gt

/-- Rounding does not cross an amount. -/
theorem ge (h : Gives x r) (ha : IsAmount a) (hle : magnitude a ≤ x) : a ≤ r := by
  cases hfinite : isFinite r with
  | true =>
    have hr := h.isAmount hfinite
    rw [ha.le_iff hr]
    exact (h.nearest hr).le_of_representable ha.representable hle
  | false => exact (ha.infinity (h.eq_infinity hfinite)).1

theorem nonneg (h : Gives x r) : 0.0 ≤ r := by
  obtain ⟨q, -, ⟨hsized, -⟩ | ⟨hinfinite, -⟩⟩ := h
  · exact (sized_iff.mp hsized).nonneg
  · rw [nonneg_iff, hinfinite]
    exact .infinity

theorem isAmount_of_le (h : Gives x r) (ha : IsAmount a) (hle : x ≤ magnitude a) :
    IsAmount r := by
  obtain ⟨q, hnearest, ⟨hsized, -⟩ | ⟨-, hlarge⟩⟩ := h
  · exact sized_iff.mp hsized
  · have hbound := hnearest.ge_of_representable ha.representable hle
    exact absurd (hlarge.trans hbound) ha.lt_large.not_ge

theorem le (h : Gives x r) (ha : IsAmount a) (hle : x ≤ magnitude a) : r ≤ a := by
  have hr := h.isAmount_of_le ha hle
  rw [hr.le_iff ha]
  exact (h.nearest hr).ge_of_representable ha.representable hle

end Gives

/-! ### Operations -/

theorem unpack_add (x y : Float) : (x + y).toModel.unpack = unpack Format.binary64
    (UnpackedFloat.pack Format.binary64
      (UnpackedFloat.add Format.binary64 x.toModel.unpack y.toModel.unpack)) := rfl

/-- Both numbers are written with the smaller exponent before they are added. -/
theorem value_add (m n : Nat) (e f : Int) :
    ((m <<< (e - min e f).toNat + n <<< (f - min e f).toNat : Nat) : ℚ) * 2 ^ min e f =
      value m e + value n f := by
  have hvalue (k : Nat) (g : Int) (h : min e f ≤ g) :
      ((k <<< (g - min e f).toNat : Nat) : ℚ) * 2 ^ min e f = value k g := by
    have hexponent : min e f + ((g - min e f).toNat : Int) = g := by omega
    show value (k <<< (g - min e f).toNat) (min e f) = _
    rw [Nat.shiftLeft_eq, value_shift, hexponent]
  rw [Nat.cast_add, add_mul, hvalue m e (min_le_left e f), hvalue n f (min_le_right e f)]

theorem rounded_sum {m n : Nat} {e f : Int} (hm : 0 < m) (hn : 0 < n) :
    Rounded .positive (value m e + value n f) (unpack Format.binary64
      (UnpackedFloat.pack Format.binary64 (UnpackedFloat.add Format.binary64
        (.finite .positive m e hm) (.finite .positive n f hn)))) := by
  have hsum : 0 < m <<< (e - min e f).toNat + n <<< (f - min e f).toNat := by
    refine Nat.add_pos_left ?_ _
    rw [Nat.shiftLeft_eq]
    exact Nat.mul_pos hm (Nat.two_pow_pos _)
  have hrounded := rounded_round .positive hsum (min e f)
  rw [value, value_add, ← normalize_natCast hsum _ .positive] at hrounded
  exact hrounded

section
variable {u v : UnpackedFloat}

theorem Sized.add (hu : Sized u) (hv : Sized v) :
    Given (numberOf u + numberOf v) (unpack Format.binary64
      (UnpackedFloat.pack Format.binary64 (UnpackedFloat.add Format.binary64 u v))) := by
  cases hu with
  | zero s =>
    have hsame : numberOf (.zero s) + numberOf v = numberOf v := zero_add _
    rw [hsame]
    cases hv with
    | zero s' => cases s <;> cases s' <;> exact given_zero _
    | finite hn h he => exact (Sized.finite hn h he).given_pack
  | @finite m e hm h he =>
    cases hv with
    | zero s' =>
      have hsame : numberOf (.finite .positive m e hm) + numberOf (.zero s') =
        numberOf (.finite .positive m e hm) := add_zero _
      rw [hsame]
      exact (Sized.finite hm h he).given_pack
    | finite hn h' he' => exact (rounded_sum hm hn).given

theorem Sized.mul {n : Nat} {f : Int} {hn : 0 < n} (hu : Sized u) (hleading : 2 ^ 52 ≤ n) :
    Given (numberOf u * value n f) (unpack Format.binary64
      (UnpackedFloat.pack Format.binary64
        (UnpackedFloat.mul Format.binary64 u (.finite .positive n f hn)))) := by
  cases hu with
  | zero s =>
    have hzero : numberOf (.zero s) * value n f = 0 := zero_mul _
    rw [hzero]
    exact given_zero _
  | finite hm h he => exact (rounded_product .positive .positive hm hn _ f hleading).given

theorem Sized.div {n : Nat} {f : Int} {hn : 0 < n} (hu : Sized u) :
    Given (numberOf u / value n f) (unpack Format.binary64
      (UnpackedFloat.pack Format.binary64
        (UnpackedFloat.div Format.binary64 u (.finite .positive n f hn)))) := by
  cases hu with
  | zero s =>
    have hzero : numberOf (.zero s) / value n f = 0 := zero_div _
    rw [hzero]
    exact given_zero _
  | finite hm h he => exact (rounded_quotient .positive .positive hm hn _ f).given

end

section
variable {x y : Float}

/-- **The sum of two amounts is rounded to the nearest float.** -/
theorem IsAmount.add (hx : IsAmount x) (hy : IsAmount y) :
    Gives (magnitude x + magnitude y) (x + y) := by
  unfold Gives
  rw [unpack_add]
  exact (sized_iff.mpr hx).add (sized_iff.mpr hy)

/-- **So is a product**, if the factor has a leading digit. -/
theorem IsAmount.mul {n : Nat} {f : Int} {hn : 0 < n} (hx : IsAmount x)
    (hy : y.toModel.unpack = .finite .positive n f hn) (hleading : 2 ^ 52 ≤ n) :
    Gives (magnitude x * magnitude y) (x * y) := by
  unfold Gives magnitude
  rw [unpack_mul, hy]
  exact (sized_iff.mpr hx).mul hleading

/-- **and a quotient**, unless the divisor is zero. -/
theorem IsAmount.div (hx : IsAmount x) (hy : IsAmount y) (hpos : 0 < magnitude y) :
    Gives (magnitude x / magnitude y) (x / y) := by
  have hsized := sized_iff.mpr hy
  unfold Gives
  rw [unpack_div]
  unfold magnitude at *
  cases hunpack : y.toModel.unpack with
  | finite s n f hn =>
    rw [hunpack] at hsized
    cases hsized
    exact (sized_iff.mpr hx).div
  | _ =>
    rw [hunpack] at hpos
    exact absurd hpos (lt_irrefl _)

/-- What is infinite stays so, whatever amount is added to it. -/
theorem infinity_add {r : Float} (hr : r.toModel.unpack = .infinity .positive) (hy : IsAmount y) :
    (r + y).toModel.unpack = .infinity .positive := by
  have hsized := sized_iff.mpr hy
  rw [unpack_add, hr]
  generalize y.toModel.unpack = u at hsized
  cases hsized <;> exact unpack_pack_infinity .positive

/-- What is infinite stays so, whatever amount it is divided by. -/
theorem infinity_div {r : Float} (hr : r.toModel.unpack = .infinity .positive) (hy : IsAmount y)
    (hpos : 0 < magnitude y) : (r / y).toModel.unpack = .infinity .positive := by
  have hsized := sized_iff.mpr hy
  unfold magnitude at hpos
  rw [unpack_div, hr]
  generalize y.toModel.unpack = u at hsized hpos
  cases hsized with
  | zero s => exact absurd hpos (lt_irrefl _)
  | finite => exact unpack_pack_infinity .positive

end

/-! ### Signs -/

section
variable {u v : UnpackedFloat} {x y : Float}

theorem notNegative_normalize (m : Nat) (e : Int) :
    NotNegative (UnpackedFloat.normalize Format.binary64 m e .positive) := by
  obtain rfl | hm := Nat.eq_zero_or_pos m
  · exact .zero .positive
  · rw [normalize_natCast hm]
    exact notNegative_roundWithAccuracy _ _ _

theorem NotNegative.add (hu : NotNegative u) (hv : NotNegative v) :
    NotNegative (UnpackedFloat.add Format.binary64 u v) := by
  cases hu with
  | zero s =>
    cases hv with
    | zero s' => cases s <;> cases s' <;> exact .zero _
    | finite => exact .finite
    | infinity => exact .infinity
  | finite =>
    cases hv with
    | zero s' => exact .finite
    | finite => exact notNegative_normalize _ _
    | infinity => exact .infinity
  | infinity => cases hv <;> exact .infinity

/-- A sum of floats that are not negative is not negative. -/
theorem nonneg_add (hx : 0.0 ≤ x) (hy : 0.0 ≤ y) : 0.0 ≤ x + y := by
  rw [nonneg_iff] at hx hy ⊢
  rw [unpack_add]
  exact notNegative_pack (hx.add hy)

/-- A product of a float that is not negative with a positive factor is not negative. -/
theorem nonneg_mul {n : Nat} {f : Int} {hn : 0 < n} (hx : 0.0 ≤ x)
    (hy : y.toModel.unpack = .finite .positive n f hn) : 0.0 ≤ x * y := by
  rw [nonneg_iff] at hx ⊢
  rw [unpack_mul, hy]
  refine notNegative_pack ?_
  generalize x.toModel.unpack = u at hx
  cases hx with
  | zero s => exact .zero _
  | finite => exact notNegative_roundWithAccuracy _ _ _
  | infinity => exact .infinity

end

/-! ### Errors -/

/-- A multiple of the least float is a float, unless it has too many digits. So it does not matter
how small it is. -/
theorem Nearest.error_of_multiple {x q : ℚ} (h : Nearest x q) {k : Nat}
    (hx : x = value k (-1074)) : |q - x| ≤ x / 2 ^ 53 := by
  have hpos := two_zpow_pos (-1074)
  by_cases hk : k < 2 ^ 53
  · rw [h.eq_of_representable (hx ▸ representable_value hk le_rfl), sub_self, abs_zero, hx]
    unfold value
    positivity
  · refine h.error.elim (fun herror => herror.trans ?_) id
    have hmono := value_mono (not_lt.mp hk) (-1074)
    have hleast : (2 : ℚ) ^ (-1075 : Int) ≤ 2 ^ (-1074 : Int) :=
      zpow_le_zpow_right₀ one_le_two (by decide)
    have hunit : value (2 ^ 53) (-1074) = 2 ^ 53 * 2 ^ (-1074 : Int) := by
      unfold value
      norm_num
    rw [le_div_iff₀ (by positivity), hx]
    linarith

/-- **A sum is off by one part in `2 ^ 53` at most.** -/
theorem IsAmount.add_error {x y : Float} (hx : IsAmount x) (hy : IsAmount y)
    (hsum : IsAmount (x + y)) :
    |magnitude (x + y) - (magnitude x + magnitude y)| ≤ (magnitude x + magnitude y) / 2 ^ 53 := by
  obtain ⟨k, hk⟩ := hx.multiple
  obtain ⟨l, hl⟩ := hy.multiple
  refine ((hx.add hy).nearest hsum).error_of_multiple (k := k + l) ?_
  rw [hk, hl, value, value, value, Nat.cast_add, add_mul]

/-! ### Counts -/

theorem natCast_eq_value (n : Nat) : (n : ℚ) = value n 0 := by simp [value]

theorem representable_natCast {n : Nat} (h : n ≤ 2 ^ 53) : Representable n := by
  obtain hlt | rfl := Nat.lt_or_eq_of_le h
  · rw [natCast_eq_value]
    exact representable_value hlt (by decide)
  · exact ⟨2 ^ 52, 1, ⟨by decide, by decide, .inl le_rfl⟩, by norm_num [value]⟩

theorem natCast_lt_large {n : Nat} (h : n ≤ 2 ^ 64) : (n : ℚ) < 2 ^ 1024 :=
  calc (n : ℚ) ≤ 2 ^ 64 := by exact_mod_cast h
    _ < 2 ^ 1024 := pow_lt_pow_right₀ one_lt_two (by decide)

theorem gives_toFloat {n : Nat} (h : n < 2 ^ 64) : Gives n n.toUInt64.toFloat := by
  have hbits : n.toUInt64.toNat = n := by
    rw [Nat.toUInt64_eq, UInt64.toNat_ofNat', Nat.mod_eq_of_lt h]
  have hunpack : n.toUInt64.toFloat.toModel.unpack = unpack Format.binary64
      (UnpackedFloat.pack Format.binary64
        (UnpackedFloat.normalize Format.binary64 n.toUInt64.toNat 0 .positive)) := rfl
  unfold Gives
  rw [hunpack, hbits]
  obtain rfl | hpos := Nat.eq_zero_or_pos n
  · rw [Nat.cast_zero]
    exact given_zero .positive
  · rw [natCast_eq_value, normalize_natCast hpos]
    exact (rounded_round .positive hpos 0).given

/-- The float of a natural number is the one nearest to it. -/
theorem gives_ofNat (n : Nat) : Gives n (Float.ofNat n) := by
  show Gives n (Float.ofScientific n false 0)
  unfold Float.ofScientific
  split
  · rename_i hsmall
    obtain ⟨hamount, hsize⟩ := (gives_toFloat (by omega : n < 2 ^ 64)).eq_of_representable
      (representable_natCast hsmall.1.le) (natCast_lt_large (by omega))
    have hone : (Float.exactlyRepresentablePowersOfTen[0]).toModel.unpack =
        .finite .positive (2 ^ 52) (-52) (by decide) := rfl
    have hproduct := hamount.mul hone le_rfl
    have hsame : magnitude n.toUInt64.toFloat *
        magnitude Float.exactlyRepresentablePowersOfTen[0] = n := by
      rw [hsize, magnitude_of_unpack hone, value_one, mul_one]
    rwa [hsame] at hproduct
  · rename_i hlarge
    have hpos : 0 < n := by
      by_contra hzero
      exact hlarge ⟨by omega, by decide⟩
    -- the digits are written with 53 more of them, and multiplied by one
    have hdigits : 2 ^ 52 ≤ n <<< 53 := by
      rw [Nat.shiftLeft_eq]
      omega
    have hmodel : UnpackedFloat.ofScientific Format.binary64 n 0 =
        roundWithAccuracy Format.binary64 .positive (n <<< 53) (-53) .exact := by
      have hbits : Format.binary64.mantissaBits = 53 := rfl
      have hlow : ¬(0 : Int) < -((2 ^ Format.binary64.exponentBits : Int) + n.log2) := by
        have hexponent : Format.binary64.exponentBits = 11 := rfl
        rw [hexponent]
        omega
      unfold UnpackedFloat.ofScientific
      rw [dif_neg hpos.ne', if_neg (by decide), if_neg hlow, if_pos le_rfl, UnpackedFloat.mul, hbits,
        Int.toNat_zero, Nat.pow_zero, Nat.mul_one]
      rfl
    have hvalue : value (n <<< 53) (-53) = n := by
      rw [Nat.shiftLeft_eq, value_shift, natCast_eq_value]
      rfl
    have hrounded :=
      (rounded_exact (e := -53) .positive (le_targetExponent (.inl hdigits))).given
    rw [hvalue, ← hmodel] at hrounded
    exact hrounded

/-- **Counting up to `2 ^ 53` is exact.** -/
theorem isAmount_ofNat {n : Nat} (h : n ≤ 2 ^ 53) :
    IsAmount (Float.ofNat n) ∧ magnitude (Float.ofNat n) = n :=
  (gives_ofNat n).eq_of_representable (representable_natCast h) (natCast_lt_large (by omega))

end Stopwatch.Decimal
