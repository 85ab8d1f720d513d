import Mathlib
import Stopwatch.Proofs.Decimal.Nearest

/-!
# Operations on floats, rounded to the nearest

Products, quotients and differences of finite floats are the exact results, rounded to the
nearest float, and floats are compared as the numbers they stand for.

- `rounded_product`, `rounded_quotient`, `rounded_difference`: what the operations give;
- `compare_swap`, `gt_iff`, `beq_iff`: comparisons both ways;
- `Packed.compare`, `lt_iff_of_packed`, `le_iff_of_packed`: what comparisons tell;
- `canonical_gap`: how close two different floats are.
-/

namespace Stopwatch.Decimal

open Float.Model (Format totalExponent UnpackedFloat)
open Float.Model.UnpackedFloat

/-! ### Results of operations -/

section
variable (x y : Float)

theorem unpack_mul : (x * y).toModel.unpack = unpack Format.binary64
    (UnpackedFloat.pack Format.binary64
      (UnpackedFloat.mul Format.binary64 x.toModel.unpack y.toModel.unpack)) := rfl

theorem unpack_div : (x / y).toModel.unpack = unpack Format.binary64
    (UnpackedFloat.pack Format.binary64
      (UnpackedFloat.div Format.binary64 x.toModel.unpack y.toModel.unpack)) := rfl

theorem unpack_sub : (x - y).toModel.unpack = unpack Format.binary64
    (UnpackedFloat.pack Format.binary64
      (UnpackedFloat.sub Format.binary64 x.toModel.unpack y.toModel.unpack)) := rfl

theorem unpack_zero : (0.0 : Float).toModel.unpack = .zero .positive := rfl

theorem unpack_negative_zero : (-0.0 : Float).toModel.unpack = .zero .negative := rfl

end

section
variable {m n : Nat} {e f : Int}

theorem rounded_exact (s : Sign) (h : e ≤ Format.binary64.targetExponent (totalExponent m e)) :
    Rounded s (value m e) (unpack Format.binary64 (UnpackedFloat.pack Format.binary64
      (roundWithAccuracy Format.binary64 s m e .exact))) := by
  refine rounded_roundWithAccuracy s .exact h ?_
  unfold value
  rw [mul_div_cancel_right₀ _ (two_zpow_pos e).ne']
  exact represents_exact m

/-- A factor with a leading digit leaves no digits that would have to be appended. -/
theorem rounded_product (s s' : Sign) (hm : 0 < m) (hn : 0 < n) (e f : Int)
    (hleading : 2 ^ 52 ≤ n) :
    Rounded (s * s') (value m e * value n f)
      (unpack Format.binary64 (UnpackedFloat.pack Format.binary64
        (UnpackedFloat.mul Format.binary64 (.finite s m e hm) (.finite s' n f hn)))) := by
  have hproduct : 2 ^ 52 ≤ m * n := Nat.le_trans hleading (Nat.le_mul_of_pos_left n hm)
  rw [value_mul]
  exact rounded_exact (s * s') (le_targetExponent (.inl hproduct))

/-- The exponent of a quotient is chosen such that it has digits enough. -/
theorem two_pow_le_quotient {k : Nat} (hm : 0 < m) (hn : 0 < n)
    (h : n.log2 + 53 ≤ m.log2 + k) : 2 ^ 52 ≤ m <<< k / n := by
  rw [Nat.le_div_iff_mul_le hn, Nat.shiftLeft_eq]
  calc 2 ^ 52 * n ≤ 2 ^ 52 * 2 ^ (n.log2 + 1) := Nat.mul_le_mul_left _ Nat.lt_log2_self.le
    _ = 2 ^ (n.log2 + 53) := by
        rw [← Nat.pow_add]
        congr 1
        omega
    _ ≤ 2 ^ (m.log2 + k) := Nat.pow_le_pow_right (by decide) h
    _ = 2 ^ m.log2 * 2 ^ k := Nat.pow_add ..
    _ ≤ m * 2 ^ k := Nat.mul_le_mul_right _ (Nat.log2_self_le hm.ne')

theorem rounded_quotient (s s' : Sign) (hm : 0 < m) (hn : 0 < n) (e f : Int) :
    Rounded (s / s') (value m e / value n f)
      (unpack Format.binary64 (UnpackedFloat.pack Format.binary64
        (UnpackedFloat.div Format.binary64 (.finite s m e hm) (.finite s' n f hn)))) := by
  simp only [UnpackedFloat.div, divCore]
  generalize htarget : min (e - f)
    (Format.binary64.targetExponent (totalExponent m e - totalExponent n f)) = t
  have hle : t ≤ e - f := by omega
  refine rounded_roundWithAccuracy (s / s') _ ?_ ?_
  · simp only [Format.targetExponent, Format.mantissaBits, Format.minExponent,
      totalExponent] at htarget
    refine le_targetExponent ?_
    -- an exponent above the least one leaves the quotient a leading digit
    by_cases hleast : t ≤ -1074
    · exact .inr hleast
    · exact .inl (two_pow_le_quotient hm hn (by omega))
  · have hunits : value m e / value n f / 2 ^ t =
        ((m <<< (e - f - t).toNat : Nat) : ℚ) / n := by
      have hexponent : e = f + t + ((e - f - t).toNat : Int) := by omega
      have hdivisor : (n : ℚ) ≠ 0 := Nat.cast_ne_zero.mpr hn.ne'
      unfold value
      rw [Nat.shiftLeft_eq, Nat.cast_mul, Nat.cast_pow, Nat.cast_ofNat, ← zpow_natCast]
      nth_rewrite 1 [hexponent]
      rw [zpow_add₀ two_ne_zero, zpow_add₀ two_ne_zero]
      field_simp
    rw [hunits]
    exact represents_quotient _ hn

/-- A number that may have to be written with more digits first. -/
theorem rounded_round (s : Sign) (hm : 0 < m) (e : Int) :
    Rounded s (value m e) (unpack Format.binary64 (UnpackedFloat.pack Format.binary64
      (UnpackedFloat.round Format.binary64 s m e))) := by
  generalize hk : (e - Format.binary64.targetExponent (totalExponent m e)).toNat = k
  have hlog := le_log2_shiftLeft hm k
  have hvalue : value (m <<< k) (e - k) = value m e := by
    rw [Nat.shiftLeft_eq, value_shift, sub_add_cancel]
  have hrounded := rounded_exact (m := m <<< k) (e := e - k) s (by
    simp only [Format.targetExponent, Format.mantissaBits, Format.minExponent,
      totalExponent] at *
    omega)
  rw [hvalue] at hrounded
  simp only [UnpackedFloat.round, decreaseExponent, hk]
  exact hrounded

theorem rounded_normalize_pos {d : Int} (hd : 0 < d) (e : Int) (s : Sign) :
    Rounded .positive (d * 2 ^ e) (unpack Format.binary64 (UnpackedFloat.pack Format.binary64
      (UnpackedFloat.normalize Format.binary64 d e s))) := by
  obtain ⟨m, rfl⟩ := Int.eq_ofNat_of_zero_le hd.le
  have hm : 0 < m := by omega
  rw [normalize_natCast hm]
  exact rounded_round .positive hm e

theorem rounded_normalize_neg {d : Int} (hd : d < 0) (e : Int) (s : Sign) :
    Rounded .negative (-d * 2 ^ e) (unpack Format.binary64 (UnpackedFloat.pack Format.binary64
      (UnpackedFloat.normalize Format.binary64 d e s))) := by
  obtain ⟨m, hm⟩ := Int.eq_ofNat_of_zero_le (Int.neg_nonneg_of_nonpos hd.le)
  obtain rfl : d = -(m : Int) := by omega
  have hpos : 0 < m := by omega
  have hcompare : compare (-(m : Int)) 0 = .lt := Int.compare_eq_lt.mpr hd
  have hround : UnpackedFloat.normalize Format.binary64 (-(m : Int)) e s =
      UnpackedFloat.round Format.binary64 .negative m e := by
    unfold UnpackedFloat.normalize
    rw [hcompare]
    show UnpackedFloat.round _ _ (- -(m : Int)).toNat e = _
    rw [neg_neg, Int.toNat_natCast]
  have hvalue : -((-(m : Int) : Int) : ℚ) * 2 ^ e = value m e := by
    simp [value]
  rw [hround, hvalue]
  exact rounded_round .negative hpos e

/-- Both numbers are written with the smaller exponent before they are subtracted. -/
theorem value_sub (m n : Nat) (e f : Int) :
    (((m <<< (e - min e f).toNat : Nat) : Int) - (n <<< (f - min e f).toNat : Nat) : Int) *
      2 ^ min e f = value m e - value n f := by
  have hvalue (k : Nat) (g : Int) (h : min e f ≤ g) :
      ((k <<< (g - min e f).toNat : Nat) : ℚ) * 2 ^ min e f = value k g := by
    have hexponent : min e f + ((g - min e f).toNat : Int) = g := by omega
    show value (k <<< (g - min e f).toNat) (min e f) = _
    rw [Nat.shiftLeft_eq, value_shift, hexponent]
  rw [Int.cast_sub, Int.cast_natCast, Int.cast_natCast, sub_mul,
    hvalue m e (min_le_left e f), hvalue n f (min_le_right e f)]

/-- A difference that is not zero has the sign and the size of the exact one. -/
theorem rounded_difference (hm : 0 < m) (hn : 0 < n) (hne : value m e ≠ value n f) :
    Rounded (if value m e < value n f then .negative else .positive) |value m e - value n f|
      (unpack Format.binary64 (UnpackedFloat.pack Format.binary64
        (UnpackedFloat.sub Format.binary64 (.finite .positive m e hm)
          (.finite .positive n f hn)))) := by
  have hsub := value_sub m n e f
  have hscale := two_zpow_pos (min e f)
  simp only [UnpackedFloat.sub, decreaseExponent, Sign.apply]
  -- the difference of the digits has the sign of the difference of the numbers
  generalize ((m <<< (e - min e f).toNat : Nat) : Int) - (n <<< (f - min e f).toNat : Nat) = d
    at hsub
  split
  · rename_i hlt
    have hneg : (d : ℚ) < 0 := by
      refine neg_of_mul_neg_left ?_ hscale.le
      linarith
    rw [abs_of_neg (by linarith), ← hsub, ← neg_mul]
    exact rounded_normalize_neg (by exact_mod_cast hneg) _ _
  · rename_i hle
    have hlt := lt_of_le_of_ne (not_lt.mp hle) hne.symm
    have hpos : (0 : ℚ) < d := by
      refine pos_of_mul_pos_left ?_ hscale.le
      linarith
    rw [abs_of_pos (by linarith), ← hsub]
    exact rounded_normalize_pos (by exact_mod_cast hpos) _ _

end

/-! ### Comparisons -/

/-- The bits of a finite float leave room for exponents up to 971. -/
theorem exponent_le_of_unpack {bits : BitVec 64} {s : Sign} {m : Nat} {e : Int} {hm : 0 < m}
    (h : unpack Format.binary64 bits = .finite s m e hm) : e ≤ 971 := by
  have hfull : @unpackExponent Format.binary64 bits ≠ -1#11 := by
    intro hfull
    simp only [unpack, hfull, if_true] at h
    split at h <;> cases h
  have hlt : (@unpackExponent Format.binary64 bits).toNat < 2048 := BitVec.isLt _
  have hne : (@unpackExponent Format.binary64 bits).toNat ≠ 2047 :=
    fun hbits => hfull (BitVec.eq_of_toNat_eq hbits)
  have hwithin := within_unpack (b := 971) hfull (by decide) (by omega)
  rw [h] at hwithin
  obtain _ | ⟨_, _, _, he⟩ := hwithin
  exact he

/-- A finite float stands for a number. -/
theorem packed_of_unpack {x : Float} {s : Sign} {m : Nat} {e : Int} {hm : 0 < m}
    (h : x.toModel.unpack = .finite s m e hm) : Packed s (value m e) x.toModel.unpack := by
  rw [h]
  exact .finite (canonical_of_unpack h) (exponent_le_of_unpack h)

theorem packed_one : Packed .positive 1 (1.0 : Float).toModel.unpack := by
  rw [← value_one]
  exact packed_of_unpack unpack_one

section
variable {p q : ℚ} {u v : UnpackedFloat}

/-- Floats that are not negative are compared as the numbers they stand for, if these are not
both too large. -/
theorem Packed.compare (hu : Packed .positive p u) (hv : Packed .positive q v)
    (h : p < 2 ^ 1024 ∨ q < 2 ^ 1024) :
    UnpackedFloat.compare u v = some (Ord.compare p q) := by
  have hlarge : (0 : ℚ) < 2 ^ 1024 := by positivity
  cases hu with
  | zero =>
    cases hv with
    | zero => exact congrArg some (compare_eq_iff_eq.mpr rfl).symm
    | @finite n f hn _ _ => exact congrArg some (compare_lt_iff_lt.mpr (value_pos hn f)).symm
    | infinity hq => exact congrArg some (compare_lt_iff_lt.mpr (hlarge.trans_le hq)).symm
  | @finite m e hm hcanonical he =>
    cases hv with
    | zero => exact congrArg some (compare_gt_iff_gt.mpr (value_pos hm e)).symm
    | finite hcanonical' _ => exact congrArg some (compare_value hcanonical hcanonical')
    | infinity hq =>
      exact congrArg some
        (compare_lt_iff_lt.mpr ((value_lt_large hcanonical he).trans_le hq)).symm
  | infinity hp =>
    have hq := h.resolve_left hp.not_gt
    have hcompare := congrArg some (compare_gt_iff_gt.mpr (hq.trans_le hp)).symm
    cases hv with
    | zero => exact hcompare
    | finite _ _ => exact hcompare
    | infinity hlarge' => exact absurd hq hlarge'.not_gt

end

theorem compare_swap (u v : UnpackedFloat) :
    v.compare u = (u.compare v).map Ordering.swap := by
  cases u with
  | notANumber => cases v <;> rfl
  | infinity s =>
    cases v with
    | infinity s' => cases s <;> cases s' <;> rfl
    | _ => cases s <;> rfl
  | zero s =>
    cases v with
    | infinity s' => cases s' <;> rfl
    | finite s' n f hn => cases s' <;> rfl
    | _ => rfl
  | finite s m e hm =>
    cases v with
    | notANumber => cases s <;> rfl
    | infinity s' => cases s <;> cases s' <;> rfl
    | zero s' => cases s <;> rfl
    | finite s' n f hn =>
      have hswap : (compare f e).then (compare n m) =
          ((compare e f).then (compare m n)).swap := by
        rw [Ordering.swap_then, Int.compare_swap, Nat.compare_swap]
      cases s <;> cases s'
      · show some _ = some _
        rw [hswap]
      · rfl
      · rfl
      · show some _ = some _
        rw [hswap]

section
variable {x y : Float} {p q : ℚ}

theorem gt_iff : y < x ↔ x.toModel.unpack.compare y.toModel.unpack = some .gt := by
  rw [lt_iff, compare_swap x.toModel.unpack]
  cases x.toModel.unpack.compare y.toModel.unpack with
  | none => exact ⟨nofun, nofun⟩
  | some o => cases o <;> decide

theorem beq_iff : (x == y) = true ↔ x.toModel.unpack.compare y.toModel.unpack = some .eq := by
  show (x.toModel.unpack.compare y.toModel.unpack == some .eq) = true ↔ _
  rw [beq_iff_eq]

theorem lt_iff_of_packed (hx : Packed .positive p x.toModel.unpack)
    (hy : Packed .positive q y.toModel.unpack) (h : p < 2 ^ 1024 ∨ q < 2 ^ 1024) :
    x < y ↔ p < q := by
  rw [lt_iff, hx.compare hy h, Option.some.injEq, compare_lt_iff_lt]

theorem le_iff_of_packed (hx : Packed .positive p x.toModel.unpack)
    (hy : Packed .positive q y.toModel.unpack) (h : p < 2 ^ 1024 ∨ q < 2 ^ 1024) :
    x ≤ y ↔ p ≤ q := by
  rw [le_iff, hx.compare hy h, Option.any_some, Ordering.isLE_iff_ne_gt,
    compare_gt_iff_gt, not_lt]

end

/-! ### Neighbours -/

/-- Two different floats differ by more than one part in `2 ^ 53` of the larger one. -/
theorem canonical_gap {m n : Nat} {e f : Int} (hm : Canonical m e) (hn : Canonical n f)
    (h : value m e < value n f) : value n f / 2 ^ 53 ≤ value n f - value m e := by
  rw [div_le_iff₀ (by positivity)]
  have hcompare := compare_value hm hn
  rw [compare_lt_iff_lt.mpr h] at hcompare
  obtain hlt | rfl | hgt := Int.lt_trichotomy e f
  -- the larger number has a leading digit, and the smaller one no digits above it
  · have hleading := hn.leading
    have hleast := hm.least
    have hlt := hm.lt
    have hle : value m e ≤ (2 ^ 53 - 1) / 2 ^ 53 * value n f := by
      calc value m e ≤ value (2 ^ 53 - 1) e := value_mono (by omega) e
        _ ≤ value (2 ^ 53 - 1) (f - 1) :=
          mul_le_mul_of_nonneg_left (zpow_le_zpow_right₀ one_le_two (by omega))
            (Nat.cast_nonneg _)
        _ = (2 ^ 53 - 1) / 2 ^ 53 * value (2 ^ 52) f := by
          unfold value
          rw [zpow_sub_one₀ two_ne_zero]
          norm_num
          ring
        _ ≤ (2 ^ 53 - 1) / 2 ^ 53 * value n f :=
          mul_le_mul_of_nonneg_left (value_mono (by omega) f) (by norm_num)
    linarith
  · have hapart := two_zpow_le_sub (m := n) (n := m) (by rintro rfl; exact h.ne rfl) e
    rw [abs_of_pos (by linarith)] at hapart
    have hn : value n e ≤ value (2 ^ 53) e := value_mono hn.lt.le e
    have hunit : value (2 ^ 53) e = 2 ^ 53 * 2 ^ e := by
      unfold value
      norm_num
    linarith
  · have hleading := hm.leading
    have hleast := hn.least
    have hbelow := value_lt_of_exponent hn.lt (by omega : 2 ^ 52 ≤ m) hgt
    exact absurd h hbelow.not_gt

end Stopwatch.Decimal
