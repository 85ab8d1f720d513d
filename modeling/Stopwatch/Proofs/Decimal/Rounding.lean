import Stopwatch.Proofs.Decimal.Packing

/-!
# Rounding and order

Rounding does not go below a float that is no larger than the exact result. So a positive
float is not made smaller by a factor of at least one, and adding what is not negative to
one gives such a factor.

- `Rounds`, `roundWithAccuracy_eq_shifted`: what rounding does to digits and exponent;
- `AtMost`, `Rounds.atMost`: the order of exact numbers, and that rounding respects it;
- `NoLess`, `noLess_rounded`: the order of floats, for what was rounded and packed;
- `not_mul_lt`, `one_le_one_add`: what follows for products and sums.
-/

namespace Stopwatch.Decimal

open Float.Model (Format totalExponent UnpackedFloat)
open Float.Model.UnpackedFloat

/-! ### Rounding -/

/-- What rounding makes of the digits `m` with the exponent `e`, before a carry. -/
structure Rounds (m : Nat) (e : Int) (r : Nat) (t : Int) : Prop where
  least : -1074 ≤ t
  exponent : e ≤ t
  lower : m / 2 ^ (t - e).toNat ≤ r
  le : r ≤ 2 ^ 53
  leading : 2 ^ 52 ≤ r ∨ t = -1074

/-- The float with rounded digits. If rounding has carried into a new digit, the last one is
dropped, which is a zero. -/
def carried (s : Sign) (r : Nat) (t : Int) : UnpackedFloat :=
  if h : r = 0 then .zero s
  else if r < 2 ^ 53 then .finite s r t (Nat.pos_of_ne_zero h)
  else .finite s (2 ^ 52) (t + 1) (by decide)

/-- Shifting to the target exponent once more drops the digit that was carried into. -/
theorem shift_rounded {r : Nat} {t : Int} (hleast : -1074 ≤ t) (hle : r ≤ 2 ^ 53) :
    (Format.binary64.targetExponent (totalExponent r t) - t).toNat =
      if r < 2 ^ 53 then 0 else 1 := by
  simp only [Format.targetExponent, Format.mantissaBits, Format.minExponent, totalExponent]
  split
  · rename_i hlt
    have hlog : r.log2 ≤ 52 := by
      by_cases hzero : r = 0
      · rw [hzero]
        decide
      · have hlog := (Nat.log2_lt hzero).mpr hlt
        omega
    omega
  · obtain rfl : r = 2 ^ 53 := by omega
    rw [Nat.log2_two_pow]
    omega

theorem eq_carried (s : Sign) {r : Nat} (t : Int) (hle : r ≤ 2 ^ 53) {k : Nat}
    (hk : k = if r < 2 ^ 53 then 0 else 1) :
    (if h : r / 2 ^ k = 0 then .zero s
      else .finite s (r / 2 ^ k) (t + k) (Nat.pos_of_ne_zero h)) = carried s r t := by
  subst hk
  unfold carried
  by_cases hlt : r < 2 ^ 53
  · simp only [hlt, if_true, Nat.pow_zero, Nat.div_one, Int.natCast_zero, Int.add_zero]
  · obtain rfl : r = 2 ^ 53 := by omega
    rfl

/-- A number with a leading digit has digits enough to be rounded. -/
theorem le_targetExponent {m : Nat} {e : Int} (h : 2 ^ 52 ≤ m ∨ e ≤ -1074) :
    e ≤ Format.binary64.targetExponent (totalExponent m e) := by
  simp only [Format.targetExponent, Format.mantissaBits, Format.minExponent, totalExponent]
  obtain hleading | hleast := h
  · have hlog : 52 ≤ m.log2 := (Nat.le_log2 (by omega)).mpr hleading
    omega
  · omega

/-- Dropping the digits below the target exponent leaves a leading one, unless the exponent is
the least. -/
theorem div_two_pow_leading {m : Nat} {e t : Int}
    (ht : Format.binary64.targetExponent (totalExponent m e) = t) (h : e ≤ t) :
    2 ^ 52 ≤ m / 2 ^ (t - e).toNat ∨ t = -1074 := by
  have htarget : t = max ((m.log2 : Int) + 1 + e - 53) (-1074) := ht.symm
  by_cases hleast : t = -1074
  · exact .inr hleast
  · have hshift : (t - e).toNat = m.log2 - 52 := by omega
    rw [hshift]
    exact .inl (div_two_pow_bounds (by omega)).1

/-- Rounding drops the digits below the target exponent, rounds what is left and drops the
digit that this may have carried into. -/
theorem roundWithAccuracy_eq_shifted (s : Sign) {m : Nat} {e t : Int} (acc : Accuracy)
    (ht : Format.binary64.targetExponent (totalExponent m e) = t) (h : e ≤ t)
    {em : ExtendedMantissa}
    (hem : ExtendedMantissa.ofMantissaAndAccuracy m acc >>> (t - e).toNat = em) :
    Rounds m e em.roundedMantissa t ∧
      roundWithAccuracy Format.binary64 s m e acc = carried s em.roundedMantissa t := by
  have hmantissa : em.mantissa = m / 2 ^ (t - e).toNat := by
    rw [← hem, mantissa_shiftRight, mantissa_ofMantissaAndAccuracy]
  have hlower := le_roundedMantissa em
  have hupper := roundedMantissa_le em
  have htarget : t = max ((m.log2 : Int) + 1 + e - 53) (-1074) := ht.symm
  have hdigits : m / 2 ^ (t - e).toNat < 2 ^ 53 := by
    rw [Nat.div_lt_iff_lt_mul (Nat.two_pow_pos _), ← Nat.pow_add]
    exact Nat.lt_of_lt_of_le Nat.lt_log2_self (Nat.pow_le_pow_right (by decide) (by omega))
  have hrounds : Rounds m e em.roundedMantissa t :=
    ⟨by omega, h, by omega, by omega, (div_two_pow_leading ht h).imp_left (by omega)⟩
  refine ⟨hrounds, ?_⟩
  have hsum : e + ((t - e).toNat : Int) = t := by omega
  simp only [roundWithAccuracy, shiftToTargetExponent, shiftToExponent, ht, hem, hsum,
    mantissa_shiftRight, mantissa_ofMantissaAndAccuracy]
  exact eq_carried s t hrounds.le (shift_rounded hrounds.least hrounds.le)

theorem roundWithAccuracy_eq_carried (s : Sign) {m : Nat} {e : Int} (acc : Accuracy)
    (h : e ≤ Format.binary64.targetExponent (totalExponent m e)) :
    ∃ r t, Rounds m e r t ∧ roundWithAccuracy Format.binary64 s m e acc = carried s r t :=
  ⟨_, _, roundWithAccuracy_eq_shifted s acc rfl h rfl⟩

/-! ### The order of exact numbers -/

/-- The number `m * 2 ^ e` is at most `n * 2 ^ f`. -/
def AtMost (m : Nat) (e : Int) (n : Nat) (f : Int) : Prop :=
  m * 2 ^ (e - f).toNat ≤ n * 2 ^ (f - e).toNat

/-- Rounding does not go below a float that is no larger. -/
theorem Rounds.atMost {m₀ : Nat} {e₀ : Int} {m : Nat} {e : Int} {r : Nat} {t : Int}
    (h : Rounds m e r t) (h₀ : Canonical m₀ e₀) (hle : AtMost m₀ e₀ m e) :
    AtMost m₀ e₀ r t := by
  obtain ⟨hleast, hexponent, hlower, -, hleading⟩ := h
  unfold AtMost at hle ⊢
  by_cases hbelow : e₀ < t
  -- the rounded number has a leading digit, and its exponent alone makes it larger
  · obtain hleading | rfl := hleading
    · have hzero : (e₀ - t).toNat = 0 := by omega
      have htwo : 2 ^ 1 ≤ 2 ^ (t - e₀).toNat :=
        Nat.pow_le_pow_right (by decide) (by omega)
      have hlt := h₀.lt
      rw [hzero, Nat.pow_zero, Nat.mul_one]
      calc m₀ ≤ 2 ^ 52 * 2 ^ 1 := by omega
        _ ≤ r * 2 ^ (t - e₀).toNat := Nat.mul_le_mul hleading htwo
    · have hleast₀ := h₀.least
      omega
  -- the other one has digits enough that none of them is dropped
  · have hzero : (t - e₀).toNat = 0 := by omega
    have hzero' : (e - e₀).toNat = 0 := by omega
    have hsplit : (e₀ - e).toNat = (e₀ - t).toNat + (t - e).toNat := by omega
    rw [hzero', Nat.pow_zero, Nat.mul_one, hsplit, Nat.pow_add, ← Nat.mul_assoc] at hle
    rw [hzero, Nat.pow_zero, Nat.mul_one]
    exact Nat.le_trans ((Nat.le_div_iff_mul_le (Nat.two_pow_pos _)).mpr hle) hlower

/-- What is at least one, and has a leading digit, is a factor that makes nothing smaller. -/
theorem atMost_mul {m n : Nat} {e k : Int} (hk : -52 ≤ k) (hn : 2 ^ 52 ≤ n) :
    AtMost m e (m * n) (e + k) := by
  unfold AtMost
  have hpow : 2 ^ (e - (e + k)).toNat ≤ n :=
    Nat.le_trans (Nat.pow_le_pow_right (by decide) (by omega)) hn
  calc m * 2 ^ (e - (e + k)).toNat ≤ m * n := Nat.mul_le_mul_left m hpow
    _ ≤ m * n * 2 ^ (e + k - e).toNat := Nat.le_mul_of_pos_right _ (Nat.two_pow_pos _)

theorem AtMost.mono {m n n' : Nat} {e f : Int} (h : AtMost m e n f) (hn : n ≤ n') :
    AtMost m e n' f := Nat.le_trans h (Nat.mul_le_mul_right _ hn)

/-- A last digit that is zero can be dropped. -/
theorem atMost_double {m n : Nat} {e f : Int} :
    AtMost m e (n * 2) f ↔ AtMost m e n (f + 1) := by
  unfold AtMost
  by_cases hle : e ≤ f
  · have hshift : (f + 1 - e).toNat = (f - e).toNat + 1 := by omega
    have hzero : (e - f).toNat = 0 := by omega
    have hzero' : (e - (f + 1)).toNat = 0 := by omega
    rw [hshift, hzero, hzero', Nat.mul_assoc, ← Nat.pow_succ']
  · have hshift : (e - f).toNat = (e - (f + 1)).toNat + 1 := by omega
    have hzero : (f - e).toNat = 0 := by omega
    have hzero' : (f + 1 - e).toNat = 0 := by omega
    rw [hshift, hzero, hzero', Nat.pow_succ, ← Nat.mul_assoc, Nat.pow_zero, Nat.mul_one,
      Nat.mul_one]
    exact Nat.mul_le_mul_right_iff (by decide)

/-- Digits that are zero can be appended. -/
theorem AtMost.shiftLeft {m n : Nat} {e f : Int} (h : AtMost m e n f) (k : Nat) :
    AtMost m e (n <<< k) (f - k) := by
  induction k with
  | zero => simpa using h
  | succ k ih =>
    have hexponent : f - (k : Int) = f - ((k + 1 : Nat) : Int) + 1 := by omega
    rw [Nat.shiftLeft_succ, Nat.mul_comm, atMost_double, ← hexponent]
    exact ih

/-- Floats are compared by their exponents first, and this is the order of the numbers. -/
theorem AtMost.lex {m n : Nat} {e f : Int} (h : AtMost m e n f) (hm : Canonical m e)
    (hn : Canonical n f) : e < f ∨ e = f ∧ m ≤ n := by
  unfold AtMost at h
  obtain hlt | rfl | hgt := Int.lt_trichotomy e f
  · exact .inl hlt
  · rw [Int.sub_self, Int.toNat_zero, Nat.pow_zero, Nat.mul_one, Nat.mul_one] at h
    exact .inr ⟨rfl, h⟩
  -- the smaller exponent leaves no room for a leading digit of the other number
  · have hzero : (f - e).toNat = 0 := by omega
    have htwo : 2 ^ 1 ≤ 2 ^ (e - f).toNat := Nat.pow_le_pow_right (by decide) (by omega)
    rw [hzero, Nat.pow_zero, Nat.mul_one] at h
    have hdouble : m * 2 ^ 1 ≤ n := Nat.le_trans (Nat.mul_le_mul_left m htwo) h
    have hlt := hn.lt
    have hleast := hn.least
    have hleading := hm.leading
    omega

/-- A positive number that is not below the float with these digits. -/
inductive NoLess (m : Nat) (e : Int) : UnpackedFloat → Prop where
  | infinity : NoLess m e (.infinity .positive)
  | finite {n : Nat} {f : Int} {hn : 0 < n} (h : e < f ∨ e = f ∧ m ≤ n) :
    NoLess m e (.finite .positive n f hn)

section
variable {m₀ : Nat} {e₀ : Int}

theorem noLess_pack {n : Nat} {f : Int} {hn : 0 < n} (h₀ : Canonical m₀ e₀)
    (h : Canonical n f) (hle : AtMost m₀ e₀ n f) :
    NoLess m₀ e₀
      (unpack Format.binary64 (UnpackedFloat.pack Format.binary64
        (.finite .positive n f hn))) := by
  by_cases hlarge : f ≤ 971
  · rw [unpack_pack h hlarge]
    exact .finite (hle.lex h₀ h)
  · rw [unpack_pack_large (Int.lt_of_not_ge hlarge)]
    exact .infinity

theorem noLess_carried (h₀ : Canonical m₀ e₀) (hpos : 0 < m₀) {m : Nat} {e : Int} {r : Nat}
    {t : Int} (h : Rounds m e r t) (hle : AtMost m₀ e₀ r t) :
    NoLess m₀ e₀ (unpack Format.binary64
      (UnpackedFloat.pack Format.binary64 (carried .positive r t))) := by
  have hne : r ≠ 0 := by
    rintro rfl
    have hzero : m₀ * 2 ^ (e₀ - t).toNat ≤ 0 := by
      rw [← Nat.zero_mul (2 ^ (t - e₀).toNat)]
      exact hle
    have hlt := Nat.mul_pos hpos (Nat.two_pow_pos (e₀ - t).toNat)
    omega
  have hmost := h.le
  have hleast := h.least
  unfold carried
  rw [dif_neg hne]
  split
  · rename_i hlt
    exact noLess_pack h₀ ⟨hlt, hleast, h.leading⟩ hle
  · obtain rfl : r = 2 ^ 53 := by omega
    have hcarry : AtMost m₀ e₀ (2 ^ 52 * 2) t := hle
    exact noLess_pack h₀ ⟨by decide, by omega, .inl (Nat.le_refl _)⟩ (atMost_double.mp hcarry)

/-- **Rounding does not go below a float that is no larger than the exact result.** -/
theorem noLess_rounded (h₀ : Canonical m₀ e₀) (hpos : 0 < m₀) {m : Nat} {e : Int}
    (acc : Accuracy) (htarget : e ≤ Format.binary64.targetExponent (totalExponent m e))
    (hle : AtMost m₀ e₀ m e) :
    NoLess m₀ e₀ (unpack Format.binary64 (UnpackedFloat.pack Format.binary64
      (roundWithAccuracy Format.binary64 .positive m e acc))) := by
  obtain ⟨r, t, hrounds, hround⟩ := roundWithAccuracy_eq_carried .positive acc htarget
  rw [hround]
  exact noLess_carried h₀ hpos hrounds (hrounds.atMost h₀ hle)

end

/-! ### Floats -/

theorem lt_iff {x y : Float} :
    x < y ↔ x.toModel.unpack.compare y.toModel.unpack = some .lt := by
  show decide (x.toModel.unpack.lt y.toModel.unpack = true) = true ↔ _
  rw [decide_eq_true_iff, UnpackedFloat.lt, beq_iff_eq]

theorem le_iff {x y : Float} :
    x ≤ y ↔ (x.toModel.unpack.compare y.toModel.unpack).any (·.isLE) = true := by
  show decide (x.toModel.unpack.le y.toModel.unpack = true) = true ↔ _
  rw [decide_eq_true_iff, UnpackedFloat.le]

section
variable {x y : Float} {m : Nat} {e : Int} {hm : 0 < m}

theorem le_iff_noLess (hx : x.toModel.unpack = .finite .positive m e hm) :
    x ≤ y ↔ NoLess m e y.toModel.unpack := by
  rw [le_iff, hx]
  generalize y.toModel.unpack = u
  constructor
  · intro h
    cases u with
    | notANumber => cases h
    | zero s => cases h
    | infinity s =>
      cases s with
      | negative => cases h
      | positive => exact .infinity
    | finite s n f hn =>
      cases s with
      | negative => cases h
      | positive =>
        refine .finite ?_
        have hle : ((compare e f).then (compare m n)).isLE = true := h
        rcases hexponent : compare e f with _ | _ | _
        · exact .inl (Int.compare_eq_lt.mp hexponent)
        · rw [hexponent] at hle
          exact .inr ⟨Int.compare_eq_eq.mp hexponent, Nat.isLE_compare.mp hle⟩
        · rw [hexponent] at hle
          cases hle
  · intro h
    cases h with
    | infinity => rfl
    | @finite n f hn h =>
      show ((compare e f).then (compare m n)).isLE = true
      obtain hlt | ⟨rfl, hle⟩ := h
      · rw [Int.compare_eq_lt.mpr hlt]
        rfl
      · rw [Int.compare_eq_eq.mpr rfl]
        exact Nat.isLE_compare.mpr hle

theorem not_lt_of_noLess (hx : x.toModel.unpack = .finite .positive m e hm)
    (h : NoLess m e y.toModel.unpack) : ¬y < x := by
  rw [lt_iff, hx]
  generalize y.toModel.unpack = u at h
  cases h with
  | infinity => nofun
  | @finite n f hn h =>
    intro hlt
    have hcompare : (compare f e).then (compare n m) = .lt := Option.some.inj hlt
    obtain hexponent | ⟨rfl, hle⟩ := h
    · rw [Int.compare_eq_gt.mpr hexponent] at hcompare
      cases hcompare
    · rw [Int.compare_eq_eq.mpr rfl] at hcompare
      have hdigits : n < m := Nat.compare_eq_lt.mp hcompare
      omega

end

/-- A positive float is infinite or has digits. -/
theorem unpack_of_pos {x : Float} (h : 0.0 < x) :
    x.toModel.unpack = .infinity .positive ∨
      ∃ m e hm, x.toModel.unpack = .finite .positive m e hm ∧ Canonical m e := by
  have hzero : (0.0 : Float).toModel.unpack = .zero .positive := rfl
  rw [lt_iff, hzero] at h
  generalize hunpack : x.toModel.unpack = u at h
  cases u with
  | notANumber => cases h
  | zero s => cases h
  | infinity s =>
    cases s with
    | negative => cases h
    | positive => exact .inl rfl
  | finite s m e hm =>
    cases s with
    | negative => cases h
    | positive => exact .inr ⟨m, e, hm, rfl, canonical_of_unpack hunpack⟩

theorem unpack_one : (1.0 : Float).toModel.unpack =
    .finite .positive (2 ^ 52) (-52) (by decide) := by
  rfl

theorem canonical_one : Canonical (2 ^ 52) (-52) := ⟨by decide, by decide, .inl (Nat.le_refl _)⟩

/-- **A factor of at least one does not make a positive float smaller.** -/
theorem not_mul_lt {x f : Float} (hx : 0.0 < x) (hf : 1.0 ≤ f) : ¬x * f < x := by
  have hone := (le_iff_noLess unpack_one).mp hf
  have hmul : (x * f).toModel.unpack = unpack Format.binary64
      (UnpackedFloat.pack Format.binary64
        (UnpackedFloat.mul Format.binary64 x.toModel.unpack f.toModel.unpack)) := rfl
  generalize hunpack : f.toModel.unpack = u at hone hmul
  obtain hinfinite | ⟨m, e, hm, hfinite, hcanonical⟩ := unpack_of_pos hx
  · have hproduct : (x * f).toModel.unpack = .infinity .positive := by
      rw [hmul, hinfinite]
      cases hone <;> exact unpack_packedInfinity _
    rw [lt_iff, hproduct, hinfinite]
    nofun
  · refine not_lt_of_noLess hfinite ?_
    rw [hmul, hfinite]
    cases hone with
    | infinity =>
      show NoLess m e (unpack Format.binary64 (packedInfinity Format.binary64 .positive))
      rw [unpack_packedInfinity]
      exact .infinity
    | @finite n k hn h =>
      -- the digits of the factor stand for at least one
      have hfactor := canonical_of_unpack hunpack
      have hk : -52 ≤ k := by omega
      have hn : 2 ^ 52 ≤ n := by
        have hleading := hfactor.leading
        omega
      have hproduct : 2 ^ 52 ≤ m * n :=
        Nat.le_trans hn (Nat.le_mul_of_pos_left n hm)
      exact noLess_rounded hcanonical hm .exact (le_targetExponent (.inl hproduct))
        (atMost_mul hk hn)

/-! ### Sums with one -/

theorem nonneg_iff {x : Float} : 0.0 ≤ x ↔ NotNegative x.toModel.unpack := by
  have hzero : (0.0 : Float).toModel.unpack = .zero .positive := rfl
  rw [le_iff, hzero]
  generalize x.toModel.unpack = u
  constructor
  · intro h
    cases u with
    | notANumber => cases h
    | zero s => exact .zero s
    | infinity s =>
      cases s with
      | negative => cases h
      | positive => exact .infinity
    | finite s m e hm =>
      cases s with
      | negative => cases h
      | positive => exact .finite
  · intro h
    cases h <;> rfl

theorem notNegative_roundWithAccuracy (m : Nat) (e : Int) (acc : Accuracy) :
    NotNegative (roundWithAccuracy Format.binary64 .positive m e acc) := by
  simp only [roundWithAccuracy]
  split
  · exact .zero _
  · exact .finite

/-- Dividing by a positive float gives nothing negative. -/
theorem nonneg_div {x y : Float} (hx : 0.0 ≤ x) (hy : 0.0 < y) (hfinite : isFinite y = true) :
    0.0 ≤ x / y := by
  rw [nonneg_iff] at hx ⊢
  have hdiv : (x / y).toModel.unpack = unpack Format.binary64
      (UnpackedFloat.pack Format.binary64
        (UnpackedFloat.div Format.binary64 x.toModel.unpack y.toModel.unpack)) := rfl
  rw [hdiv]
  refine notNegative_pack ?_
  obtain hinfinite | ⟨n, f, hn, hunpack, _⟩ := unpack_of_pos hy
  · have hbelow := isFinite_iff_below.mp hfinite
    rw [Below, hinfinite] at hbelow
    cases hbelow
  rw [hunpack]
  generalize x.toModel.unpack = u at hx
  cases hx with
  | zero s => exact .zero _
  | infinity => exact .infinity
  | finite => exact notNegative_roundWithAccuracy _ _ _

/-- Appending digits that are zero makes that many more digits. -/
theorem le_log2_shiftLeft {m : Nat} (hm : 0 < m) (k : Nat) :
    m.log2 + k ≤ (m <<< k).log2 := by
  rw [Nat.shiftLeft_eq]
  refine (Nat.le_log2 (Nat.ne_of_gt (Nat.mul_pos hm (Nat.two_pow_pos k)))).mpr ?_
  rw [Nat.pow_add]
  exact Nat.mul_le_mul_right _ (Nat.log2_self_le (Nat.ne_of_gt hm))

/-- Rounding a number that may have to be written with more digits first. -/
theorem noLess_round {m₀ : Nat} {e₀ : Int} (h₀ : Canonical m₀ e₀) (hpos : 0 < m₀) {m : Nat}
    {e : Int} (hm : 0 < m) (hle : AtMost m₀ e₀ m e) :
    NoLess m₀ e₀ (unpack Format.binary64 (UnpackedFloat.pack Format.binary64
      (UnpackedFloat.round Format.binary64 .positive m e))) := by
  have hshift := le_log2_shiftLeft hm
    (e - Format.binary64.targetExponent (totalExponent m e)).toNat
  simp only [UnpackedFloat.round, decreaseExponent]
  refine noLess_rounded h₀ hpos .exact ?_ (hle.shiftLeft _)
  simp only [Format.targetExponent, Format.mantissaBits, Format.minExponent,
    totalExponent] at *
  omega

theorem normalize_natCast {m : Nat} (hm : 0 < m) (e : Int) (s : Sign) :
    UnpackedFloat.normalize Format.binary64 m e s =
      UnpackedFloat.round Format.binary64 .positive m e := by
  have hcompare : compare (m : Int) 0 = .gt := Int.compare_eq_gt.mpr (by omega)
  unfold UnpackedFloat.normalize
  rw [hcompare]
  rfl

/-- Adding what is not negative to one gives at least one. -/
theorem one_le_one_add {x : Float} (hx : 0.0 ≤ x) : 1.0 ≤ 1.0 + x := by
  rw [nonneg_iff] at hx
  rw [le_iff_noLess unpack_one]
  have hadd : (1.0 + x).toModel.unpack = unpack Format.binary64
      (UnpackedFloat.pack Format.binary64
        (UnpackedFloat.add Format.binary64 (1.0 : Float).toModel.unpack x.toModel.unpack)) := rfl
  rw [hadd, unpack_one]
  generalize x.toModel.unpack = u at hx
  have hself : AtMost (2 ^ 52) (-52) (2 ^ 52) (-52) := Nat.le_refl _
  cases hx with
  | zero s => exact noLess_pack canonical_one canonical_one hself
  | infinity =>
    show NoLess _ _ (unpack Format.binary64 (packedInfinity Format.binary64 .positive))
    rw [unpack_packedInfinity]
    exact .infinity
  | @finite n f hn =>
    -- both numbers are written with the smaller exponent and added
    have hone := hself.shiftLeft (-52 - min (-52) f).toNat
    have hexponent : -52 - ((-52 - min (-52) f).toNat : Int) = min (-52) f := by omega
    rw [hexponent] at hone
    have hsum := hone.mono (Nat.le_add_right _ (n <<< (f - min (-52) f).toNat))
    have hpos : 0 < 2 ^ 52 <<< (-52 - min (-52) f).toNat + n <<< (f - min (-52) f).toNat := by
      refine Nat.add_pos_left ?_ _
      rw [Nat.shiftLeft_eq]
      exact Nat.mul_pos (by decide) (Nat.two_pow_pos _)
    have hround := noLess_round canonical_one (by decide) hpos hsum
    rw [← normalize_natCast hpos _ .positive] at hround
    exact hround

end Stopwatch.Decimal
