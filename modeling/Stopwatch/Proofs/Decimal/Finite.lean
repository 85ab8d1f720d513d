import Mathlib
import Stopwatch.Decimal.Binary

/-!
# Floats that stay finite

Rounding raises the exponent of a float by little, and dividing by a number above one
lowers it, so a float that is small enough stays finite however often it is divided by
powers of ten.

- `Below`: finite, with an exponent of at most so much; `AtLeast`: no less than a power of
  two;
- `isFinite_iff_below`: the finite floats are those whose exponent is at most 971;
- `below_ofNat`, `Below.mul`, `Below.div`, `Below.neg`: how the bound changes.
-/

namespace Stopwatch.Decimal

open Float.Model (Format totalExponent UnpackedFloat)
open Float.Model.UnpackedFloat

/-- Zero, or a finite number whose exponent is at most `b`. -/
inductive Within (b : Int) : UnpackedFloat → Prop where
  | zero (s : Sign) : Within b (.zero s)
  | finite (s : Sign) (m : Nat) {e : Int} (hm : 0 < m) (he : e ≤ b) :
      Within b (.finite s m e hm)

/-- A finite float whose exponent is at most `b`. -/
def Below (b : Int) (x : Float) : Prop := Within b x.toModel.unpack

instance (b : Int) (u : UnpackedFloat) : Decidable (Within b u) :=
  match u with
  | .zero s => isTrue (.zero s)
  | .finite s m _ hm => decidable_of_iff (_ ≤ b) ⟨.finite s m hm, fun | .finite _ _ _ he => he⟩
  | .infinity _ => isFalse nofun
  | .notANumber => isFalse nofun

instance (b : Int) (x : Float) : Decidable (Below b x) :=
  inferInstanceAs (Decidable (Within b _))

/-- A finite number of at least `2 ^ (k - 1)`, whatever its sign. -/
inductive Reaches (k : Int) : UnpackedFloat → Prop where
  | finite (s : Sign) (m : Nat) {e : Int} (hm : 0 < m) (he : k ≤ totalExponent m e) :
    Reaches k (.finite s m e hm)

instance (k : Int) (u : UnpackedFloat) : Decidable (Reaches k u) :=
  match u with
  | .finite s m _ hm =>
    decidable_of_iff (k ≤ totalExponent m _) ⟨.finite s m hm, fun | .finite _ _ _ he => he⟩
  | .zero _ => isFalse nofun
  | .infinity _ => isFalse nofun
  | .notANumber => isFalse nofun

/-- A finite float of at least `2 ^ (k - 1)`, whatever its sign. -/
def AtLeast (k : Int) (x : Float) : Prop := Reaches k x.toModel.unpack

instance (k : Int) (x : Float) : Decidable (AtLeast k x) :=
  inferInstanceAs (Decidable (Reaches k _))

theorem Within.mono {b c : Int} {u : UnpackedFloat} (h : Within b u) (hbc : b ≤ c) :
    Within c u := by
  cases h with
  | zero s => exact .zero s
  | finite s m hm he => exact .finite s m hm (Int.le_trans he hbc)

theorem Reaches.mono {j k : Int} {u : UnpackedFloat} (h : Reaches k u) (hjk : j ≤ k) :
    Reaches j u := by
  cases h with
  | finite s m hm he => exact .finite s m hm (Int.le_trans hjk he)

theorem AtLeast.mono {j k : Int} {x : Float} (h : AtLeast k x) (hjk : j ≤ k) : AtLeast j x :=
  Reaches.mono h hjk

theorem Below.mono {b c : Int} {x : Float} (h : Below b x) (hbc : b ≤ c) : Below c x :=
  Within.mono h hbc

/-! ### Bits -/

/-- The bits of a float leave room for 53 binary digits. -/
theorem log2_le_of_unpack {bits : BitVec 64} {s : Sign} {m : Nat} {e : Int} {hm : 0 < m}
    (h : unpack Format.binary64 bits = .finite s m e hm) : m.log2 ≤ 52 := by
  have hmantissa : (@unpackMantissa Format.binary64 bits).toNat < 2 ^ 52 := BitVec.isLt _
  have hlt : m < 2 ^ 53 := by
    simp only [unpack] at h
    split at h
    · split at h <;> cases h
    · split at h
      · split at h
        · cases h
        · injection h with _ hdigits _
          omega
      · injection h with _ hdigits _
        rw [← hdigits]
        exact BitVec.isLt _
  have hlog := (Nat.log2_lt (k := 53) (Nat.ne_of_gt hm)).mpr hlt
  omega

/-- Unless all bits of the exponent are set, they bound the number. -/
theorem within_unpack {b : Int} {bits : BitVec 64}
    (hfull : @unpackExponent Format.binary64 bits ≠ -1#11) (hlow : -1074 ≤ b)
    (h : ((@unpackExponent Format.binary64 bits).toNat : Int) - 1075 ≤ b) :
    Within b (unpack Format.binary64 bits) := by
  simp only [unpack, hfull, if_false]
  split
  · rename_i hleast
    split
    · exact .zero _
    · refine .finite _ _ _ ?_
      rw [hleast]
      exact hlow
  · exact .finite _ _ _ h

/-- Unless they are all the same, the bits of the exponent tell how large the number is. -/
theorem reaches_unpack {k : Int} {bits : BitVec 64}
    (hfull : @unpackExponent Format.binary64 bits ≠ -1#11)
    (hleast : @unpackExponent Format.binary64 bits ≠ 0#11)
    (h : k ≤ ((@unpackExponent Format.binary64 bits).toNat : Int) - 1022) :
    Reaches k (unpack Format.binary64 bits) := by
  have hleading : 2 ^ 52 ≤ (1#1 ++ @unpackMantissa Format.binary64 bits).toNat := by
    rw [BitVec.toNat_append]
    exact Nat.le_trans (by decide) Nat.left_le_or
  have hpos := Nat.lt_of_lt_of_le (Nat.two_pow_pos 52) hleading
  have hlog := (Nat.le_log2 (Nat.ne_of_gt hpos)).mpr hleading
  simp only [unpack, hfull, hleast, if_false]
  refine .finite _ _ _ ?_
  -- the leading digit is not stored, and stands for 2 ^ 52
  have hbias : Format.binary64.exponentBias = 1023 := rfl
  rw [totalExponent, hbias]
  omega

/-- The finite floats are those whose exponent is at most 971. -/
theorem isFinite_iff_below {x : Float} : isFinite x = true ↔ Below 971 x := by
  have hbits : x.toBits.toNat / Binary.leadingBit % Binary.exponentCount =
      (@unpackExponent Format.binary64 x.toModel.toBits.toBitVec).toNat := by
    simp [unpackExponent, Float.toBits, Nat.shiftRight_eq_div_pow]
    rfl
  have hlt : (@unpackExponent Format.binary64 x.toModel.toBits.toBitVec).toNat < 2048 :=
    BitVec.isLt _
  rw [isFinite, hbits, bne_iff_ne, Below, Float.Model.unpack]
  constructor
  · intro hne
    have hne' : (@unpackExponent Format.binary64 x.toModel.toBits.toBitVec).toNat ≠ 2047 := hne
    exact within_unpack (fun hfull => hne (by rw [hfull]; rfl)) (by decide) (by omega)
  · intro hbelow hne
    have hfull : @unpackExponent Format.binary64 x.toModel.toBits.toBitVec = -1#11 :=
      BitVec.eq_of_toNat_eq hne
    simp only [unpack, hfull, if_true] at hbelow
    split at hbelow <;> cases hbelow

theorem toNat_exponentBits {e : Int} (h : e ≤ 971) :
    (BitVec.ofNat 11 (e + 1023 + 52).toNat).toNat = (e + 1075).toNat := by
  rw [BitVec.toNat_ofNat, Nat.mod_eq_of_lt (by omega)]
  omega

/-- The bits of the exponent are not all set, unless it is too large. -/
theorem exponentBits_ne {e : Int} (h : e ≤ 971) :
    BitVec.ofNat 11 (e + 1023 + 52).toNat ≠ -1#11 := by
  intro hfull
  have hbits : (e + 1075).toNat = 2047 :=
    (toNat_exponentBits h).symm.trans (congrArg BitVec.toNat hfull)
  omega

theorem pack_finite {s : Sign} {m : Nat} {e : Int} {hm : 0 < m} (h : e ≤ 971) :
    UnpackedFloat.pack Format.binary64 (.finite s m e hm) =
      packComponents Format.binary64 s
        (if m.log2 = 52 then BitVec.ofNat 11 (e + 1023 + 52).toNat else 0#11)
        (BitVec.ofNat 52 m) := by
  have hsmall : ¬2 ^ 11 ≤ (e + 1023 + 52).toNat + 1 := by omega
  have hdigits : m.log2 + 1 = Format.binary64.mantissaBits ↔ m.log2 = 52 := by
    have hbits : Format.binary64.mantissaBits = 53 := rfl
    omega
  show (if 2 ^ 11 ≤ (e + 1023 + 52).toNat + 1 then _ else if _ then _ else _) = _
  rw [if_neg hsmall]
  by_cases hnormal : m.log2 = 52
  · rw [if_pos hnormal, if_pos (hdigits.mpr hnormal)]
    rfl
  · rw [if_neg hnormal, if_neg (mt hdigits.mp hnormal)]

/-- Packing keeps the bound of a number. -/
theorem below_pack {b : Int} {u : UnpackedFloat} (h : Within b u) (hlow : -1074 ≤ b)
    (hhigh : b ≤ 971) : Below b (.ofModel (.pack u)) := by
  have hzero (s : Sign) (digits : BitVec 52) :
      Within b (unpack Format.binary64 (packComponents Format.binary64 s 0 digits)) := by
    refine within_unpack ?_ hlow ?_
    · rw [unpackExponent_packComponents]
      decide
    · rw [unpackExponent_packComponents]
      exact Int.le_trans (by decide) hlow
  show Within b (unpack Format.binary64 (UnpackedFloat.pack Format.binary64 u))
  -- zero and the least floats have no bits of an exponent, the others their own
  cases h with
  | zero s => exact hzero s 0
  | @finite s m e hm he =>
    rw [pack_finite (by omega)]
    split
    · have hbits := toNat_exponentBits (e := e) (by omega)
      refine within_unpack ?_ hlow ?_
      · rw [unpackExponent_packComponents]
        exact exponentBits_ne (by omega)
      · rw [unpackExponent_packComponents, hbits]
        omega
    · exact hzero s _

/-- Packing keeps the size of a number with 53 binary digits. -/
theorem atLeast_pack {s : Sign} {m : Nat} {e k : Int} {hm : 0 < m} (hlog : m.log2 = 52)
    (hlow : -1074 ≤ e) (hhigh : e ≤ 971) (hk : k ≤ e + 53) :
    AtLeast k (.ofModel (.pack (.finite s m e hm))) := by
  have hbits := toNat_exponentBits hhigh
  show Reaches k (unpack Format.binary64
      (UnpackedFloat.pack Format.binary64 (.finite s m e hm)))
  rw [pack_finite hhigh, if_pos hlog]
  refine reaches_unpack ?_ ?_ ?_
  · rw [unpackExponent_packComponents]
    exact exponentBits_ne hhigh
  · rw [unpackExponent_packComponents]
    intro hleast
    rw [hleast] at hbits
    have hpos : 0 = (e + 1075).toNat := hbits
    omega
  · rw [unpackExponent_packComponents, hbits]
    omega

/-! ### Rounding -/

theorem mantissa_shiftRight (em : ExtendedMantissa) (k : Nat) :
    (em >>> k).mantissa = em.mantissa / 2 ^ k := by
  induction k with
  | zero => exact (Nat.div_one _).symm
  | succ k ih =>
    show (em >>> k).mantissa / 2 = _
    rw [ih, Nat.div_div_eq_div_mul, Nat.pow_succ]

theorem roundedMantissa_le (em : ExtendedMantissa) : em.roundedMantissa ≤ em.mantissa + 1 := by
  obtain ⟨m, roundBit, stickyBit⟩ := em
  cases roundBit <;> cases stickyBit <;>
    simp only [ExtendedMantissa.roundedMantissa, ExtendedMantissa.accuracy,
      Accuracy.roundToNearestEven] <;>
    omega

theorem le_roundedMantissa (em : ExtendedMantissa) : em.mantissa ≤ em.roundedMantissa := by
  obtain ⟨m, roundBit, stickyBit⟩ := em
  cases roundBit <;> cases stickyBit <;>
    simp only [ExtendedMantissa.roundedMantissa, ExtendedMantissa.accuracy,
      Accuracy.roundToNearestEven] <;>
    omega

theorem mantissa_ofMantissaAndAccuracy (m : Nat) (acc : Accuracy) :
    (ExtendedMantissa.ofMantissaAndAccuracy m acc).mantissa = m := by
  cases acc with
  | exact => rfl
  | inexact o => cases o <;> rfl

/-- Dropping binary digits and rounding up leaves the number of digits as expected, or one
more. -/
theorem log2_le_of_rounded {m r k : Nat} (h : r ≤ m / 2 ^ k + 1) : r.log2 ≤ m.log2 + 1 - k := by
  have hdigits : m / 2 ^ k < 2 ^ (m.log2 + 1 - k) := by
    rw [Nat.div_lt_iff_lt_mul (Nat.two_pow_pos k), ← Nat.pow_add]
    exact Nat.lt_of_lt_of_le Nat.lt_log2_self (Nat.pow_le_pow_right (by decide) (by omega))
  by_cases hr : r = 0
  · rw [hr]
    exact Nat.zero_le _
  · have hlt : r < 2 ^ (m.log2 + 1 - k + 1) := by
      rw [Nat.pow_succ]
      omega
    have hlog := (Nat.log2_lt hr).mpr hlt
    omega

theorem within_zero_or_finite {b : Int} (s : Sign) (m : Nat) {e : Int} (h : e ≤ b) :
    Within b (if hzero : m = 0 then .zero s else .finite s m e (Nat.pos_of_ne_zero hzero)) := by
  split
  · exact .zero s
  · exact .finite s m _ h

/-- The exponent of a rounded number. -/
theorem within_roundWithAccuracy {b : Int} {s : Sign} {m : Nat} {e : Int} {acc : Accuracy}
    (he : e ≤ b) (hlow : -1074 ≤ b) (h : totalExponent m e ≤ b + 52) :
    Within b (roundWithAccuracy Format.binary64 s m e acc) := by
  have hround := roundedMantissa_le
    (ExtendedMantissa.ofMantissaAndAccuracy m acc >>>
      (Format.binary64.targetExponent (totalExponent m e) - e).toNat)
  rw [mantissa_shiftRight, mantissa_ofMantissaAndAccuracy] at hround
  have hlog := log2_le_of_rounded hround
  simp only [roundWithAccuracy, shiftToTargetExponent, shiftToExponent]
  refine within_zero_or_finite s _ ?_
  simp only [Format.targetExponent, Format.mantissaBits, Format.minExponent, totalExponent] at *
  omega

/-- Dropping all but 53 binary digits of a number leaves 53. -/
theorem div_two_pow_bounds {m : Nat} (hdigits : 52 ≤ m.log2) :
    2 ^ 52 ≤ m / 2 ^ (m.log2 - 52) ∧ m / 2 ^ (m.log2 - 52) < 2 ^ 53 := by
  have hm : m ≠ 0 := by
    rintro rfl
    exact absurd hdigits (by decide)
  constructor
  · rw [Nat.le_div_iff_mul_le (Nat.two_pow_pos _), ← Nat.pow_add, Nat.add_sub_cancel' hdigits]
    exact Nat.log2_self_le hm
  · rw [Nat.div_lt_iff_lt_mul (Nat.two_pow_pos _), ← Nat.pow_add]
    exact Nat.lt_of_lt_of_le Nat.lt_log2_self (Nat.pow_le_pow_right (by decide) (by omega))

/-- Rounding 53 binary digits gives 53 of them, or one more, which is then dropped. -/
theorem log2_roundedMantissa {em : ExtendedMantissa} (hlower : 2 ^ 52 ≤ em.mantissa)
    (hupper : em.mantissa < 2 ^ 53) :
    52 ≤ em.roundedMantissa.log2 ∧
      (em.roundedMantissa / 2 ^ (em.roundedMantissa.log2 - 52)).log2 = 52 := by
  have hle := le_roundedMantissa em
  have hge := roundedMantissa_le em
  constructor
  · exact (Nat.le_log2 (by omega)).mpr (by omega)
  · by_cases hcarry : em.roundedMantissa = 2 ^ 53
    · rw [hcarry]
      decide
    · have hlog : em.roundedMantissa.log2 = 52 :=
        (Nat.log2_eq_iff (by omega)).mpr ⟨by omega, by omega⟩
      rw [hlog, Nat.sub_self, Nat.pow_zero, Nat.div_one, hlog]

/-- A number with digits enough, and not among the least floats, keeps 53 of them and does
not become smaller than a power of two below it. -/
theorem roundWithAccuracy_eq_finite (s : Sign) {m : Nat} {e : Int} (acc : Accuracy)
    (hdigits : 52 ≤ m.log2) (hlow : -1021 ≤ totalExponent m e) :
    ∃ m' e' hm, roundWithAccuracy Format.binary64 s m e acc = .finite s m' e' hm ∧
      m'.log2 = 52 ∧ totalExponent m e ≤ e' + 53 := by
  -- the first shift drops all but 53 digits
  have hshift : (Format.binary64.targetExponent (totalExponent m e) - e).toNat =
      m.log2 - 52 := by
    simp only [Format.targetExponent, Format.mantissaBits, Format.minExponent,
      totalExponent] at *
    omega
  generalize hem : ExtendedMantissa.ofMantissaAndAccuracy m acc >>> (m.log2 - 52) = em
  have hmantissa : em.mantissa = m / 2 ^ (m.log2 - 52) := by
    rw [← hem, mantissa_shiftRight, mantissa_ofMantissaAndAccuracy]
  obtain ⟨hlower, hupper⟩ := div_two_pow_bounds hdigits
  rw [← hmantissa] at hlower hupper
  obtain ⟨hcarried, hfinal⟩ := log2_roundedMantissa hlower hupper
  have hne : em.roundedMantissa / 2 ^ (em.roundedMantissa.log2 - 52) ≠ 0 := by
    intro hzero
    rw [hzero] at hfinal
    exact absurd hfinal (by decide)
  -- and the second one the digit that rounding may have added
  have hsecond : (Format.binary64.targetExponent
        (totalExponent em.roundedMantissa (e + (m.log2 - 52 : Nat))) -
          (e + (m.log2 - 52 : Nat))).toNat =
      em.roundedMantissa.log2 - 52 := by
    simp only [Format.targetExponent, Format.mantissaBits, Format.minExponent,
      totalExponent] at *
    omega
  simp only [roundWithAccuracy, shiftToTargetExponent, shiftToExponent, hshift, hem, hsecond,
    mantissa_shiftRight, mantissa_ofMantissaAndAccuracy]
  refine ⟨_, _, Nat.pos_of_ne_zero hne, dif_neg hne, hfinal, ?_⟩
  unfold totalExponent at *
  omega

/-! ### Arithmetic -/

/-- A float other than zero with its digits. -/
theorem Below.unpack_cases {b : Int} {x : Float} (h : Below b x) :
    (∃ s, x.toModel.unpack = .zero s) ∨
      ∃ s m e hm, x.toModel.unpack = .finite s m e hm ∧ m.log2 ≤ 52 ∧ e ≤ b := by
  unfold Below at h
  generalize hunpack : x.toModel.unpack = u at h
  cases h with
  | zero s => exact .inl ⟨s, rfl⟩
  | @finite s m e hm he => exact .inr ⟨s, m, e, hm, rfl, log2_le_of_unpack hunpack, he⟩

theorem AtLeast.unpack_eq {k : Int} {x : Float} (h : AtLeast k x) :
    ∃ s m e hm, x.toModel.unpack = .finite s m e hm ∧ k ≤ totalExponent m e := by
  unfold AtLeast at h
  generalize x.toModel.unpack = u at h
  obtain @⟨s, m, e, hm, he⟩ := h
  exact ⟨s, m, e, hm, rfl, he⟩

theorem Below.neg {b : Int} {x : Float} (h : Below b x) (hlow : -1074 ≤ b) (hhigh : b ≤ 971) :
    Below b (-x) := by
  refine below_pack (u := x.toModel.unpack.neg) ?_ hlow hhigh
  obtain ⟨s, hzero⟩ | ⟨s, m, e, hm, hfinite, _, he⟩ := h.unpack_cases
  · rw [hzero]
    exact .zero _
  · rw [hfinite]
    exact .finite _ m hm he

theorem log2_mul_le {m n : Nat} (hm : 0 < m) (hn : 0 < n) :
    (m * n).log2 ≤ m.log2 + n.log2 + 1 := by
  have hlt : m * n < 2 ^ (m.log2 + n.log2 + 1 + 1) := by
    calc m * n < 2 ^ (m.log2 + 1) * 2 ^ (n.log2 + 1) :=
          Nat.mul_lt_mul'' Nat.lt_log2_self Nat.lt_log2_self
      _ = 2 ^ (m.log2 + n.log2 + 1 + 1) := by
          rw [← Nat.pow_add]
          congr 1
          omega
  have hlog := (Nat.log2_lt (Nat.ne_of_gt (Nat.mul_pos hm hn))).mpr hlt
  omega

theorem Below.mul {a b c : Int} {x y : Float} (hx : Below a x) (hy : Below b y)
    (h : a + b + 54 ≤ c) (hlow : -1074 ≤ c) (hhigh : c ≤ 971) : Below c (x * y) := by
  refine below_pack (u := UnpackedFloat.mul _ x.toModel.unpack y.toModel.unpack) ?_ hlow hhigh
  obtain ⟨s, hzero⟩ | ⟨s, m, e, hm, hfinite, hlog, he⟩ := hx.unpack_cases
  · obtain ⟨s', hzero'⟩ | ⟨s', m', e', hm', hfinite', _, _⟩ := hy.unpack_cases
    · rw [hzero, hzero']
      exact .zero _
    · rw [hzero, hfinite']
      exact .zero _
  · obtain ⟨s', hzero'⟩ | ⟨s', m', e', hm', hfinite', hlog', he'⟩ := hy.unpack_cases
    · rw [hfinite, hzero']
      exact .zero _
    -- the product has all digits of both, before it is rounded
    · have hproduct := log2_mul_le hm hm'
      rw [hfinite, hfinite']
      refine within_roundWithAccuracy (by omega) hlow ?_
      unfold totalExponent
      omega

/-- How many binary digits the quotient of two numbers has. -/
theorem log2_quotient_le {m n k : Nat} (hn : 0 < n) (h : m <<< k / n ≠ 0) :
    (m <<< k / n).log2 + n.log2 ≤ m.log2 + k := by
  have hpow : 2 ^ ((m <<< k / n).log2 + n.log2) < 2 ^ (m.log2 + 1 + k) := by
    calc 2 ^ ((m <<< k / n).log2 + n.log2)
      _ = 2 ^ (m <<< k / n).log2 * 2 ^ n.log2 := Nat.pow_add ..
      _ ≤ m <<< k / n * n :=
        Nat.mul_le_mul (Nat.log2_self_le h) (Nat.log2_self_le (Nat.ne_of_gt hn))
      _ ≤ m <<< k := Nat.div_mul_le_self ..
      _ = m * 2 ^ k := Nat.shiftLeft_eq ..
      _ < 2 ^ (m.log2 + 1) * 2 ^ k :=
        Nat.mul_lt_mul_of_pos_right Nat.lt_log2_self (Nat.two_pow_pos k)
      _ = 2 ^ (m.log2 + 1 + k) := (Nat.pow_add ..).symm
  have hlt := (Nat.pow_lt_pow_iff_right (by decide)).mp hpow
  omega

/-- Dividing by a float of at least two does not raise the bound, and dividing by one of
at least one raises it by one at most. -/
theorem Below.div {b c k : Int} {x y : Float} (hx : Below b x) (hy : AtLeast k y)
    (h : b + 2 ≤ c + k) (hlow : -1074 ≤ c) (hhigh : c ≤ 971) : Below c (x / y) := by
  refine below_pack (u := UnpackedFloat.div _ x.toModel.unpack y.toModel.unpack) ?_ hlow hhigh
  obtain ⟨s', n, f, hn, hfinite', hk⟩ := hy.unpack_eq
  obtain ⟨s, hzero⟩ | ⟨s, m, e, hm, hfinite, hlog, he⟩ := hx.unpack_cases
  · rw [hzero, hfinite']
    exact .zero _
  · rw [hfinite, hfinite']
    simp only [UnpackedFloat.div, divCore]
    generalize htarget : min (e - f)
      (Format.binary64.targetExponent (totalExponent m e - totalExponent n f)) = t
    have hquotient := log2_quotient_le (m := m) (k := (e - f - t).toNat) hn
    simp only [Format.targetExponent, Format.mantissaBits, Format.minExponent,
      totalExponent] at htarget hk
    refine within_roundWithAccuracy (by omega) hlow ?_
    unfold totalExponent
    -- a quotient may have no digits left at all
    by_cases hempty : m <<< (e - f - t).toNat / n = 0
    · rw [hempty]
      show ((Nat.log2 0 : Nat) : Int) + 1 + t ≤ c + 52
      have hlogzero : Nat.log2 0 = 0 := by decide
      omega
    · have hdigits := hquotient hempty
      omega

/-! ### Natural numbers -/

theorem log2_shiftLeft_le (m k : Nat) : (m <<< k).log2 ≤ m.log2 + k := by
  by_cases hm : m <<< k = 0
  · rw [hm]
    exact Nat.zero_le _
  · have hlt : m <<< k < 2 ^ (m.log2 + k + 1) := by
      calc m <<< k = m * 2 ^ k := Nat.shiftLeft_eq ..
        _ < 2 ^ (m.log2 + 1) * 2 ^ k :=
          Nat.mul_lt_mul_of_pos_right Nat.lt_log2_self (Nat.two_pow_pos k)
        _ = 2 ^ (m.log2 + k + 1) := by
          rw [← Nat.pow_add]
          congr 1
          omega
    have hlog := (Nat.log2_lt hm).mpr hlt
    omega

theorem within_normalize {b : Int} {n : Nat} (hb : 0 ≤ b) (h : (n.log2 : Int) + 1 ≤ b + 52) :
    Within b (UnpackedFloat.normalize Format.binary64 n 0 .positive) := by
  have hshift := log2_shiftLeft_le n
    (0 - Format.binary64.targetExponent (totalExponent n 0)).toNat
  have hround (s : Sign) : Within b (UnpackedFloat.round Format.binary64 s n 0) := by
    simp only [UnpackedFloat.round, decreaseExponent]
    refine within_roundWithAccuracy (by omega) (by omega) ?_
    unfold totalExponent at *
    omega
  unfold UnpackedFloat.normalize
  split
  · rename_i hnegative
    have hlt : (n : Int) < 0 := Int.compare_eq_lt.mp hnegative
    omega
  · exact .zero _
  · rw [Int.toNat_natCast]
    exact hround .positive

theorem below_toFloat (n : UInt64) : Below 12 n.toFloat := by
  have hlog : n.toNat.log2 ≤ 63 := by
    by_cases hzero : n.toNat = 0
    · rw [hzero]
      decide
    · have hlt := (Nat.log2_lt (k := 64) hzero).mpr n.toNat_lt
      omega
  exact below_pack (within_normalize (by decide) (by omega)) (by decide) (by decide)

theorem below_ofScientific {n : Nat} (h : n < 2 ^ 64) :
    Below 12 (.ofModel (.ofScientific n 0)) := by
  refine below_pack ?_ (by decide) (by decide)
  by_cases hzero : n = 0
  · rw [hzero]
    exact .zero _
  · have hlog := (Nat.log2_lt (k := 64) hzero).mpr h
    have hshift := log2_shiftLeft_le n Format.binary64.mantissaBits
    simp only [UnpackedFloat.ofScientific, hzero, dif_neg, not_false_eq_true]
    rw [if_neg (by decide), if_neg (by omega), if_pos (by decide)]
    rw [UnpackedFloat.mul]
    refine within_roundWithAccuracy (by decide) (by decide) ?_
    have hbits : Format.binary64.mantissaBits = 53 := rfl
    rw [hbits] at hshift
    rw [totalExponent, Int.toNat_zero, Nat.pow_zero, Nat.mul_one, hbits]
    omega

/-- The float nearest to a number of 64 bits. -/
theorem below_ofNat {n : Nat} (h : n < 2 ^ 64) : Below 14 (Float.ofNat n) := by
  show Below 14 (Float.ofScientific n false 0)
  unfold Float.ofScientific
  split
  · have hone : Below (-52) Float.exactlyRepresentablePowersOfTen[0] := by decide
    exact (below_toFloat n.toUInt64).mul hone (by decide) (by decide) (by decide)
  · exact (below_ofScientific h).mono (by decide)

/-! ### Powers of ten -/

theorem atLeast_rounded (s : Sign) {m : Nat} {e : Int} (acc : Accuracy) (hdigits : 52 ≤ m.log2)
    (hlow : -1021 ≤ totalExponent m e) (hhigh : totalExponent m e ≤ 1023) :
    AtLeast (totalExponent m e)
      (.ofModel (.pack (roundWithAccuracy Format.binary64 s m e acc))) := by
  obtain ⟨m', e', hm, hround, hlog, hsize⟩ :=
    roundWithAccuracy_eq_finite s acc hdigits hlow
  have hwithin : Within 971 (roundWithAccuracy Format.binary64 s m e acc) := by
    refine within_roundWithAccuracy ?_ (by decide) hhigh
    unfold totalExponent at hhigh
    omega
  rw [hround] at hwithin ⊢
  obtain _ | ⟨_, _, _, he⟩ := hwithin
  exact atLeast_pack hlog (by omega) he hsize

/-- A power of ten that is no larger than any float is no less than one. -/
theorem atLeast_ofScientific {n : Nat} (h : n < 308) :
    AtLeast 1 (.ofModel (.ofScientific 1 n)) := by
  -- the largest such power is evaluated once
  have hpow : 10 ^ n < 2 ^ 1020 :=
    Nat.lt_of_le_of_lt (Nat.pow_le_pow_right (by decide) (by omega : n ≤ 307))
      (by decide +kernel)
  have hpos : 0 < 10 ^ n := Nat.pow_pos (by decide)
  have hne : 1 <<< 53 * 10 ^ n ≠ 0 := Nat.ne_of_gt (Nat.mul_pos (by decide) hpos)
  have hlower : 53 ≤ (1 <<< 53 * 10 ^ n).log2 :=
    (Nat.le_log2 hne).mpr (Nat.le_mul_of_pos_right _ hpos)
  have hupper : (1 <<< 53 * 10 ^ n).log2 < 1073 := by
    refine (Nat.log2_lt hne).mpr ?_
    calc 1 <<< 53 * 10 ^ n < 1 <<< 53 * 2 ^ 1020 := Nat.mul_lt_mul_of_pos_left hpow (by decide)
      _ = 2 ^ 1073 := by decide +kernel
  show AtLeast 1 (.ofModel (.pack (UnpackedFloat.ofScientific Format.binary64 1 n)))
  simp only [UnpackedFloat.ofScientific, Nat.one_ne_zero, dif_neg, not_false_eq_true]
  rw [if_neg (by omega), if_neg (by omega), if_pos (by omega), UnpackedFloat.mul]
  have htotal : totalExponent (1 <<< 53 * 10 ^ n) (-53 + 0) =
      (1 <<< 53 * 10 ^ n).log2 - 52 := by
    unfold totalExponent
    omega
  have hround := atLeast_rounded .positive (m := 1 <<< 53 * 10 ^ n) (e := -53 + 0) .exact
    (by omega) (by omega) (by omega)
  exact hround.mono (by omega)

end Stopwatch.Decimal
