import Stopwatch.Proofs.Decimal.Finite

/-!
# Packing

The digits and the exponent of a float are canonical, and packing keeps what is canonical,
unless the exponent is too large: then the float becomes infinite. The sign is always kept.

- `Canonical`, `canonical_of_unpack`: the digits and exponents of floats;
- `unpack_pack`, `unpack_pack_large`: what becomes of digits and exponent;
- `NotNegative`, `notNegative_pack`: the sign is kept.
-/

namespace Stopwatch.Decimal

open Float.Model (Format UnpackedFloat)
open Float.Model.UnpackedFloat

/-! ### Canonical numbers -/

/-- The digits and the exponent of a float: 53 binary digits, or fewer with the least
exponent. -/
structure Canonical (m : Nat) (e : Int) : Prop where
  lt : m < 2 ^ 53
  least : -1074 ≤ e
  leading : 2 ^ 52 ≤ m ∨ e = -1074

theorem canonical_of_unpack {bits : BitVec 64} {s : Sign} {m : Nat} {e : Int} {hm : 0 < m}
    (h : unpack Format.binary64 bits = .finite s m e hm) : Canonical m e := by
  have hmantissa : (@unpackMantissa Format.binary64 bits).toNat < 2 ^ 52 := BitVec.isLt _
  have hbias : Format.binary64.exponentBias = 1023 := rfl
  simp only [unpack] at h
  split at h
  · split at h <;> cases h
  split at h
  · rename_i hzero
    split at h
    · cases h
    · injection h with _ hdigits hexponent
      rw [hzero, hbias] at hexponent
      have hleast : (0#11).toNat = 0 := rfl
      exact ⟨hdigits ▸ Nat.lt_of_lt_of_le hmantissa (by decide), by omega, .inr (by omega)⟩
  · rename_i hleast
    injection h with _ hdigits hexponent
    have hpos : (@unpackExponent Format.binary64 bits).toNat ≠ 0 :=
      fun hzero => hleast (BitVec.eq_of_toNat_eq hzero)
    have hlt : m < 2 ^ 53 := by
      rw [← hdigits]
      exact BitVec.isLt _
    have hleading : 2 ^ 52 ≤ m := by
      rw [← hdigits, BitVec.toNat_append]
      exact Nat.le_trans (by decide) Nat.left_le_or
    rw [hbias] at hexponent
    exact ⟨hlt, by omega, .inl hleading⟩

theorem unpack_packedInfinity (s : Sign) :
    unpack Format.binary64 (packedInfinity Format.binary64 s) = .infinity s := by
  cases s <;> rfl

/-- The leading digit is not stored. -/
theorem unpack_normal {s : Sign} {m : Nat} {e : Int} {hm : 0 < m} (hlow : 2 ^ 52 ≤ m)
    (hhigh : m < 2 ^ 53) (hleast : -1074 ≤ e) (he : e ≤ 971) :
    unpack Format.binary64 (packComponents Format.binary64 s
        (BitVec.ofNat 11 (e + 1023 + 52).toNat) (BitVec.ofNat 52 m)) = .finite s m e hm := by
  have hbits := toNat_exponentBits he
  have hbias : Format.binary64.exponentBias = 1023 := rfl
  have hpos : BitVec.ofNat 11 (e + 1023 + 52).toNat ≠ 0#11 := by
    intro hzero
    rw [hzero] at hbits
    have hnone : 0 = (e + 1075).toNat := hbits
    omega
  have hdigits : (1#1 ++ BitVec.ofNat 52 m).toNat = m := by
    have hrest : (BitVec.ofNat 52 m).toNat = m - 2 ^ 52 := by
      rw [BitVec.toNat_ofNat]
      omega
    rw [BitVec.toNat_append, hrest]
    show 1 <<< 52 ||| (m - 2 ^ 52) = m
    rw [← Nat.shiftLeft_add_eq_or_of_lt (by omega)]
    omega
  have hexponent : ((e + 1075).toNat : Int) - (1023 + 52) = e := by omega
  simp only [unpack, unpackExponent_packComponents, unpackMantissa_packComponents,
    unpackSign_packComponents, Sign.ofBitVec_toBitVec, hbias, exponentBits_ne he, hpos, hbits,
    hdigits, if_false]
  exact congrArg (UnpackedFloat.finite s m · hm) hexponent

/-- The least floats have no leading digit. -/
theorem unpack_least {s : Sign} {m : Nat} {hm : 0 < m} (hhigh : m < 2 ^ 52) :
    unpack Format.binary64 (packComponents Format.binary64 s 0#11 (BitVec.ofNat 52 m)) =
      .finite s m (-1074) hm := by
  have hdigits : (BitVec.ofNat 52 m).toNat = m := by
    rw [BitVec.toNat_ofNat, Nat.mod_eq_of_lt hhigh]
  have hpos : BitVec.ofNat 52 m ≠ 0#52 := by
    intro hzero
    rw [hzero] at hdigits
    exact Nat.ne_of_lt hm hdigits
  have hfull : 0#11 ≠ -1#11 := by decide
  simp only [unpack, unpackExponent_packComponents, unpackMantissa_packComponents,
    unpackSign_packComponents, Sign.ofBitVec_toBitVec, hfull, hpos, hdigits, if_false, if_true,
    dif_neg, not_false_eq_true]
  rfl

/-- Packing keeps a number that is not too large. -/
theorem unpack_pack {s : Sign} {m : Nat} {e : Int} {hm : 0 < m} (h : Canonical m e)
    (he : e ≤ 971) :
    unpack Format.binary64 (UnpackedFloat.pack Format.binary64 (.finite s m e hm)) =
      .finite s m e hm := by
  have hne := Nat.ne_of_gt hm
  rw [pack_finite he]
  by_cases hlow : 2 ^ 52 ≤ m
  · have hlog : m.log2 = 52 := (Nat.log2_eq_iff hne).mpr ⟨hlow, h.lt⟩
    rw [if_pos hlog]
    exact unpack_normal hlow h.lt h.least he
  · have hlog : m.log2 ≠ 52 := fun hlog => hlow ((Nat.log2_eq_iff hne).mp hlog).1
    obtain rfl : e = -1074 := h.leading.resolve_left hlow
    rw [if_neg hlog]
    exact unpack_least (Nat.lt_of_not_le hlow)

/-- A number that is too large becomes infinite. -/
theorem unpack_pack_large {s : Sign} {m : Nat} {e : Int} {hm : 0 < m} (he : 971 < e) :
    unpack Format.binary64 (UnpackedFloat.pack Format.binary64 (.finite s m e hm)) =
      .infinity s := by
  have hlarge : 2 ^ 11 ≤ (e + 1023 + 52).toNat + 1 := by omega
  have hpack : UnpackedFloat.pack Format.binary64 (.finite s m e hm) =
      packedInfinity Format.binary64 s := if_pos hlarge
  rw [hpack, unpack_packedInfinity]

/-! ### Signs -/

/-- Not below zero. -/
inductive NotNegative : UnpackedFloat → Prop where
  | zero (s : Sign) : NotNegative (.zero s)
  | finite {m : Nat} {e : Int} {hm : 0 < m} : NotNegative (.finite .positive m e hm)
  | infinity : NotNegative (.infinity .positive)

theorem notNegative_unpack {exponent : BitVec 11} (h : exponent ≠ -1#11) (digits : BitVec 52) :
    NotNegative (unpack Format.binary64
      (packComponents Format.binary64 .positive exponent digits)) := by
  simp only [unpack, unpackExponent_packComponents, unpackMantissa_packComponents,
    unpackSign_packComponents, Sign.ofBitVec_toBitVec, h, if_false]
  split
  · split
    · exact .zero _
    · exact .finite
  · exact .finite

/-- Packing keeps the sign, whatever becomes of the digits. -/
theorem notNegative_pack {u : UnpackedFloat} (h : NotNegative u) :
    NotNegative (unpack Format.binary64 (UnpackedFloat.pack Format.binary64 u)) := by
  cases h with
  | zero s => cases s <;> exact .zero _
  | infinity => exact .infinity
  | @finite m e hm =>
    by_cases hlarge : e ≤ 971
    · rw [pack_finite hlarge]
      refine notNegative_unpack ?_ _
      split
      · exact exponentBits_ne hlarge
      · decide
    · rw [unpack_pack_large (Int.lt_of_not_ge hlarge)]
      exact .infinity

end Stopwatch.Decimal
