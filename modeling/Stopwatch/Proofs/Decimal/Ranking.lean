import Mathlib
import Stopwatch.Proofs.Decimal.Relative

/-!
# The total order of floats

Every bit pattern has a place of its own in the total order, and the floats that can be compared stand
in it as their comparison says. Only the two zeros, which are equal, have two places.

- `toInt_place`: the place of a bit pattern as an integer;
- `place_injective`: different patterns have different places;
- `rank`, `code`, `rank_eq`: the place of a float, told by its sign, its digits and its exponent;
- `rank_lt_of_lt`: the total order extends the comparison.
-/

namespace Stopwatch.Decimal

open Float.Model (Format UnpackedFloat)
open Float.Model.UnpackedFloat

/-! ### Patterns -/

theorem toBitVec_place (bits : UInt64) :
    (place bits).toBitVec = bits.toBitVec ^^^ (bits.toBitVec.sshiftRight 63 >>> 1) := rfl

/-- A pattern without a sign stays as it is. -/
theorem toBitVec_place_of_msb_false {bits : UInt64} (h : bits.toBitVec.msb = false) :
    (place bits).toBitVec = bits.toBitVec := by
  have hlow := BitVec.msb_eq_false_iff_two_mul_lt.mp h
  have hmask : bits.toBitVec >>> 63 = 0#64 := by
    refine BitVec.eq_of_toNat_eq ?_
    rw [BitVec.toNat_ushiftRight, Nat.shiftRight_eq_div_pow, Nat.div_eq_of_lt (by omega)]
    rfl
  rw [toBitVec_place, BitVec.sshiftRight_eq_of_msb_false h, hmask]
  exact BitVec.xor_zero

/-- A pattern with a sign keeps only that. -/
theorem toBitVec_place_of_msb_true {bits : UInt64} (h : bits.toBitVec.msb = true) :
    (place bits).toBitVec = BitVec.cons true (~~~bits.toBitVec.setWidth 63) := by
  have hhigh := BitVec.msb_eq_true_iff_two_mul_ge.mp h
  have hshift : ~~~bits.toBitVec >>> 63 = 0#64 := by
    refine BitVec.eq_of_toNat_eq ?_
    rw [BitVec.toNat_ushiftRight, Nat.shiftRight_eq_div_pow, BitVec.toNat_not,
      Nat.div_eq_of_lt (by omega)]
    rfl
  have hmask : ~~~(0#64) >>> 1 = BitVec.cons false (BitVec.allOnes 63) := by decide
  have hcons := BitVec.cons_msb_setWidth (w := 63) bits.toBitVec
  rw [h] at hcons
  rw [toBitVec_place, BitVec.sshiftRight_eq_of_msb_true h, hshift, hmask, ← hcons,
    BitVec.cons_xor_cons, BitVec.xor_allOnes, Bool.xor_false, hcons]

/-- **The place of a bit pattern as an integer**: patterns without a sign stand in their own order from zero
on, and those with a sign in front of them in the opposite order. -/
theorem toInt_place (bits : UInt64) :
    (place bits).toInt =
      if bits.toNat < Binary.signBit then (bits.toNat : Int) else Binary.signBit - 1 - bits.toNat := by
  have hplace : (place bits).toInt = (place bits).toBitVec.toInt := rfl
  have hbits : bits.toNat = bits.toBitVec.toNat := rfl
  have hbit : Binary.signBit = 2 ^ 63 := rfl
  have hlt := bits.toNat_lt
  rw [hplace]
  cases hsign : bits.toBitVec.msb with
  | false =>
    have hlow := BitVec.msb_eq_false_iff_two_mul_lt.mp hsign
    rw [toBitVec_place_of_msb_false hsign, if_pos (by omega), BitVec.toInt_eq_toNat_of_msb hsign, hbits]
  | true =>
    have hhigh := BitVec.msb_eq_true_iff_two_mul_ge.mp hsign
    have hone : true.toNat <<< 63 = 2 ^ 63 := rfl
    rw [toBitVec_place_of_msb_true hsign, if_neg (by omega), BitVec.toInt_eq_toNat_cond,
      BitVec.toNat_cons', BitVec.toNat_not, BitVec.toNat_setWidth, hone, ← hbits]
    split <;> omega

/-- The bits of a pattern are told by its place. -/
theorem place_injective {a b : UInt64} (h : place a = place b) : a = b := by
  have ha := a.toNat_lt
  have hb := b.toNat_lt
  have hint := congrArg Int64.toInt h
  rw [toInt_place, toInt_place] at hint
  refine UInt64.toNat_inj.mp ?_
  simp only [Binary.signBit] at hint
  omega

/-! ### Floats -/

/-- The place of a float in the total order. -/
def rank (x : Float) : Int := (place x.toBits).toInt

/-- How far a float is from zero in the total order, among the floats of its sign. -/
def code : UnpackedFloat → Nat
  | .zero _ => 0
  | .finite _ m e _ => (e + 1074).toNat * 2 ^ 52 + m
  | .infinity _ => 2047 * 2 ^ 52
  | .notANumber => 2047 * 2 ^ 52 + 2 ^ 51

/-- The sign of a float. What is not a number has none, and comes last. -/
def signOf : UnpackedFloat → Sign
  | .zero s => s
  | .finite s _ _ _ => s
  | .infinity s => s
  | .notANumber => .positive

/-- The place at a distance from zero, on the side of a sign. -/
def placeAt : Sign → Nat → Int
  | .positive, c => c
  | .negative, c => -1 - c

theorem toNat_append_eq {n k : Nat} (v : BitVec n) (w : BitVec k) :
    (v ++ w).toNat = v.toNat * 2 ^ k + w.toNat := by
  rw [BitVec.toNat_append, ← Nat.shiftLeft_add_eq_or_of_lt w.isLt, Nat.shiftLeft_eq]

/-- The bits of a float in one number. -/
theorem toNat_packComponents (s : Sign) (exponent : BitVec 11) (digits : BitVec 52) :
    (packComponents Format.binary64 s exponent digits).toNat =
      s.toBitVec.toNat * 2 ^ 63 + exponent.toNat * 2 ^ 52 + digits.toNat := by
  unfold packComponents
  rw [toNat_append_eq, toNat_append_eq]
  show (s.toBitVec.toNat * 2 ^ 11 + exponent.toNat) * 2 ^ 52 + digits.toNat = _
  ring

/-- The exponent bits and the fraction bits together tell the distance from zero. -/
theorem code_unpack {bits : BitVec 64} (hvalid : Format.binary64.Valid bits) :
    (@unpackExponent Format.binary64 bits).toNat * 2 ^ 52 +
        (@unpackMantissa Format.binary64 bits).toNat = code (unpack Format.binary64 bits) ∧
      signOf (unpack Format.binary64 bits) = .ofBitVec (@unpackSign Format.binary64 bits) := by
  have hbias : Format.binary64.exponentBias = 1023 := rfl
  simp only [unpack]
  split
  · rename_i hfull
    split
    · rename_i hzero
      rw [hfull, hzero]
      exact ⟨rfl, rfl⟩
    · rename_i hdigits
      obtain rfl := hvalid.eq_packedNaN hfull hdigits
      exact ⟨rfl, rfl⟩
  split
  · rename_i hleast
    split
    · rename_i hzero
      rw [hleast, hzero]
      exact ⟨rfl, rfl⟩
    · rw [hleast, hbias]
      exact ⟨rfl, rfl⟩
  · rename_i hleast
    refine ⟨?_, rfl⟩
    have hpos : (@unpackExponent Format.binary64 bits).toNat ≠ 0 :=
      fun hzero => hleast (BitVec.eq_of_toNat_eq hzero)
    show _ = ((((@unpackExponent Format.binary64 bits).toNat : Int) - (1023 + 52) + 1074).toNat) *
      2 ^ 52 + (1#1 ++ @unpackMantissa Format.binary64 bits).toNat
    rw [toNat_append_eq]
    -- the leading digit is not stored, and counts as one more exponent
    show _ = _ + (1 * 2 ^ 52 + (@unpackMantissa Format.binary64 bits).toNat)
    omega

/-- The place of a float is as far from zero as its code says, on the side of its sign. -/
theorem rank_eq (x : Float) :
    rank x = placeAt (signOf x.toModel.unpack) (code x.toModel.unpack) := by
  have hbits : x.toBits.toNat = x.toModel.toBits.toBitVec.toNat := rfl
  obtain ⟨hcode, hsign⟩ := code_unpack x.toModel.valid
  have hparts := congrArg BitVec.toNat (packComponents_unpack x.toModel.toBits.toBitVec)
  rw [toNat_packComponents, ← hsign, ← hbits] at hparts
  have hexponent : (@unpackExponent Format.binary64 _).toNat < 2 ^ 11 :=
    (@unpackExponent Format.binary64 x.toModel.toBits.toBitVec).isLt
  have hdigits : (@unpackMantissa Format.binary64 _).toNat < 2 ^ 52 :=
    (@unpackMantissa Format.binary64 x.toModel.toBits.toBitVec).isLt
  rw [rank, toInt_place]
  unfold Float.Model.unpack
  generalize unpack Format.binary64 x.toModel.toBits.toBitVec = u at *
  generalize signOf u = s at *
  rw [← hcode]
  have hbit : Binary.signBit = 2 ^ 63 := rfl
  cases s with
  | positive =>
    have hzero : Sign.positive.toBitVec.toNat = 0 := rfl
    have hlow : x.toBits.toNat < Binary.signBit := by omega
    rw [if_pos hlow]
    simp only [placeAt]
    omega
  | negative =>
    have hone : Sign.negative.toBitVec.toNat = 1 := rfl
    have hhigh : ¬x.toBits.toNat < Binary.signBit := by omega
    rw [if_neg hhigh]
    simp only [placeAt]
    omega

/-- A float is told by its place. -/
theorem rank_injective {x y : Float} (h : rank x = rank y) : x = y := by
  have hbits : x.toBits = y.toBits := place_injective (Int64.toInt_inj.mp h)
  rw [← Float.ofBits_toBits x, hbits, Float.ofBits_toBits]

/-! ### Comparisons -/

/-- What the bits of a float can stand for. -/
inductive Stored : UnpackedFloat → Prop where
  | notANumber : Stored .notANumber
  | infinity (s : Sign) : Stored (.infinity s)
  | zero (s : Sign) : Stored (.zero s)
  | finite (s : Sign) {m : Nat} {e : Int} (hm : 0 < m) (h : Canonical m e) (he : e ≤ 971) :
      Stored (.finite s m e hm)

theorem stored_unpack (bits : BitVec 64) : Stored (unpack Format.binary64 bits) := by
  generalize hunpack : unpack Format.binary64 bits = u
  cases u with
  | notANumber => exact .notANumber
  | infinity s => exact .infinity s
  | zero s => exact .zero s
  | finite s m e hm =>
    exact .finite s hm (canonical_of_unpack hunpack) (exponent_le_of_unpack hunpack)

theorem code_finite_lt (s : Sign) {m : Nat} {e : Int} (hm : 0 < m) (h : Canonical m e)
    (he : e ≤ 971) :
    0 < code (.finite s m e hm) ∧ code (.finite s m e hm) < 2047 * 2 ^ 52 := by
  have hlt := h.lt
  have hleast := h.least
  simp only [code]
  omega

/-- Digits that come later, or come with a larger exponent, are further from zero. -/
theorem code_lt_of_compare (s s' : Sign) {m n : Nat} {e f : Int} (hm : 0 < m) (hn : 0 < n)
    (h : Canonical m e) (h' : Canonical n f)
    (hlt : (compare e f).then (compare m n) = .lt) :
    code (.finite s m e hm) < code (.finite s' n f hn) := by
  have hdigits := h.lt
  have hleast := h.least
  have hleading := h'.leading
  have hleast' := h'.least
  simp only [code]
  obtain hexponent | ⟨hexponent, hmantissa⟩ := Ordering.then_eq_lt.mp hlt
  · rw [Int.compare_eq_lt] at hexponent
    omega
  · rw [Int.compare_eq_eq] at hexponent
    rw [Nat.compare_eq_lt] at hmantissa
    omega

/-- On the negative side, the places come in the other order. -/
theorem place_lt_of_compare {u v : UnpackedFloat} (hu : Stored u) (hv : Stored v)
    (h : u.compare v = some .lt) :
    placeAt (signOf u) (code u) < placeAt (signOf v) (code v) := by
  cases hu with
  | notANumber => cases h
  | infinity s =>
    cases hv with
    | notANumber => cases s <;> cases h
    | infinity s' =>
      cases s <;> cases s' <;> cases h
      decide
    | zero s' => cases s <;> cases s' <;> cases h <;> decide
    | finite s' hn hcanonical he =>
      have hcode := code_finite_lt s' hn hcanonical he
      cases s <;> cases s' <;> cases h <;> simp only [signOf, placeAt, code] at hcode ⊢ <;> omega
  | zero s =>
    cases hv with
    | notANumber => cases h
    | infinity s' => cases s <;> cases s' <;> cases h <;> decide
    | zero s' => cases h
    | finite s' hn hcanonical he =>
      have hcode := code_finite_lt s' hn hcanonical he
      cases s <;> cases s' <;> cases h <;> simp only [signOf, placeAt, code] at hcode ⊢ <;> omega
  | finite s hm hcanonical he =>
    have hcode := code_finite_lt s hm hcanonical he
    cases hv with
    | notANumber => cases s <;> cases h
    | infinity s' =>
      cases s <;> cases s' <;> cases h <;> simp only [signOf, placeAt, code] at hcode ⊢ <;> omega
    | zero s' =>
      cases s <;> cases s' <;> cases h <;> simp only [signOf, placeAt, code] at hcode ⊢ <;> omega
    | finite s' hn hcanonical' he' =>
      cases s <;> cases s'
      · have hswap := Option.some.inj h
        rw [Ordering.swap_then, Int.compare_swap, Nat.compare_swap] at hswap
        have hlt := code_lt_of_compare .negative .negative hn hm hcanonical' hcanonical hswap
        simp only [signOf, placeAt]
        omega
      · simp only [signOf, placeAt]
        omega
      · cases h
      · have hlt := code_lt_of_compare .positive .positive hm hn hcanonical hcanonical'
          (Option.some.inj h)
        simp only [signOf, placeAt]
        omega

/-- **The total order extends the comparison of floats.** -/
theorem rank_lt_of_lt {x y : Float} (h : x < y) : rank x < rank y := by
  rw [rank_eq, rank_eq]
  exact place_lt_of_compare (stored_unpack _) (stored_unpack _) (lt_iff.mp h)

end Stopwatch.Decimal
