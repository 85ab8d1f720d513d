import Mathlib
import Stopwatch.Proofs.Decimal.Relative

/-!
# Floats without a minus sign

Sums, products and quotients of floats without a minus sign have none. Of two such floats,
whatever they are, each is divided by the other: one quotient is above one exactly if the
other is below one.

- `Unsigned`, `IsUnsigned`: no minus sign; with what keeps it;
- `div_cases`: the quotients of two floats that are not both positive and finite;
- `one_lt_div_iff_div_lt_one`: the two quotients of two floats.
-/

namespace Stopwatch.Decimal

open Float.Model (Format totalExponent UnpackedFloat)
open Float.Model.UnpackedFloat

/-- A float that has no minus sign. -/
inductive Unsigned : UnpackedFloat → Prop where
  | notANumber : Unsigned .notANumber
  | zero : Unsigned (.zero .positive)
  | finite {m : Nat} {e : Int} {hm : 0 < m} : Unsigned (.finite .positive m e hm)
  | infinity : Unsigned (.infinity .positive)

def IsUnsigned (x : Float) : Prop := Unsigned x.toModel.unpack

theorem IsTime.isUnsigned {x : Float} (h : IsTime x) : IsUnsigned x := by
  unfold IsUnsigned
  obtain hpos | rfl := h
  · obtain hinfinite | ⟨m, e, hm, hfinite, _⟩ := unpack_of_pos hpos
    · rw [hinfinite]
      exact .infinity
    · rw [hfinite]
      exact .finite
  · exact .zero

/-! ### Packing and rounding -/

theorem unsigned_unpack (exponent : BitVec 11) (digits : BitVec 52) :
    Unsigned (unpack Format.binary64
      (packComponents Format.binary64 .positive exponent digits)) := by
  simp only [unpack, unpackExponent_packComponents, unpackMantissa_packComponents,
    unpackSign_packComponents, Sign.ofBitVec_toBitVec]
  split
  · split
    · exact .infinity
    · exact .notANumber
  · split
    · split
      · exact .zero
      · exact .finite
    · exact .finite

theorem Unsigned.pack {u : UnpackedFloat} (h : Unsigned u) :
    Unsigned (unpack Format.binary64 (UnpackedFloat.pack Format.binary64 u)) := by
  cases h with
  | notANumber => exact .notANumber
  | zero => exact .zero
  | infinity => exact .infinity
  | @finite m e hm =>
    by_cases hlarge : e ≤ 971
    · rw [pack_finite hlarge]
      exact unsigned_unpack _ _
    · rw [unpack_pack_large (Int.lt_of_not_ge hlarge)]
      exact .infinity

theorem unsigned_roundWithAccuracy (m : Nat) (e : Int) (acc : Accuracy) :
    Unsigned (roundWithAccuracy Format.binary64 .positive m e acc) := by
  simp only [roundWithAccuracy]
  split
  · exact .zero
  · exact .finite

theorem unsigned_normalize (m : Nat) (e : Int) :
    Unsigned (UnpackedFloat.normalize Format.binary64 m e .positive) := by
  obtain rfl | hm := Nat.eq_zero_or_pos m
  · exact .zero
  · rw [normalize_natCast hm]
    exact unsigned_roundWithAccuracy _ _ _

/-! ### Operations -/

section
variable {u v : UnpackedFloat} {x y : Float}

theorem Unsigned.add (hu : Unsigned u) (hv : Unsigned v) :
    Unsigned (UnpackedFloat.add Format.binary64 u v) := by
  cases hu with
  | notANumber => exact .notANumber
  | zero => cases hv <;> constructor
  | infinity => cases hv <;> constructor
  | finite =>
    cases hv with
    | notANumber => exact .notANumber
    | zero => exact .finite
    | infinity => exact .infinity
    | finite => exact unsigned_normalize _ _

theorem Unsigned.mul (hu : Unsigned u) (hv : Unsigned v) :
    Unsigned (UnpackedFloat.mul Format.binary64 u v) := by
  cases hu with
  | notANumber => exact .notANumber
  | zero => cases hv <;> constructor
  | infinity => cases hv <;> constructor
  | finite =>
    cases hv with
    | notANumber => exact .notANumber
    | zero => exact .zero
    | infinity => exact .infinity
    | finite => exact unsigned_roundWithAccuracy _ _ _

theorem Unsigned.div (hu : Unsigned u) (hv : Unsigned v) :
    Unsigned (UnpackedFloat.div Format.binary64 u v) := by
  cases hu with
  | notANumber => exact .notANumber
  | zero => cases hv <;> constructor
  | infinity => cases hv <;> constructor
  | finite =>
    cases hv with
    | notANumber => exact .notANumber
    | zero => exact .infinity
    | infinity => exact .zero
    | finite => exact unsigned_roundWithAccuracy _ _ _

theorem IsUnsigned.add (hx : IsUnsigned x) (hy : IsUnsigned y) : IsUnsigned (x + y) :=
  (Unsigned.add hx hy).pack

theorem IsUnsigned.mul (hx : IsUnsigned x) (hy : IsUnsigned y) : IsUnsigned (x * y) :=
  (Unsigned.mul hx hy).pack

theorem IsUnsigned.div (hx : IsUnsigned x) (hy : IsUnsigned y) : IsUnsigned (x / y) :=
  (Unsigned.div hx hy).pack

/-- Minus zero, to which sums are added up, leaves no sign. -/
theorem IsUnsigned.zero_add (hx : IsUnsigned x) : IsUnsigned (-0.0 + x) := by
  refine Unsigned.pack
    (u := UnpackedFloat.add Format.binary64 (.zero .negative) x.toModel.unpack) ?_
  unfold IsUnsigned at hx
  generalize x.toModel.unpack = u at hx
  cases hx <;> constructor

end

/-- The float nearest to a natural number. -/
theorem isUnsigned_ofNat (n : Nat) : IsUnsigned (Float.ofNat n) := by
  show IsUnsigned (Float.ofScientific n false 0)
  unfold Float.ofScientific
  split
  · have hone : IsUnsigned Float.exactlyRepresentablePowersOfTen[0] := .finite
    exact IsUnsigned.mul (unsigned_normalize _ _).pack hone
  · refine Unsigned.pack (u := UnpackedFloat.ofScientific Format.binary64 n 0) ?_
    unfold UnpackedFloat.ofScientific
    split
    · exact .zero
    split
    · exact .infinity
    split
    · exact .zero
    split
    · exact Unsigned.mul .finite .finite
    · exact Unsigned.div .finite .finite

/-! ### Two quotients -/

/-- Two floats are positive and finite, or what they give when divided, either way, is told
by what kinds of floats they are. -/
theorem div_cases {u v : UnpackedFloat} (hu : Unsigned u) (hv : Unsigned v) :
    (∃ m e hm n f hn, u = .finite .positive m e hm ∧ v = .finite .positive n f hn) ∨
      (UnpackedFloat.div Format.binary64 u v = .notANumber ∧
        UnpackedFloat.div Format.binary64 v u = .notANumber) ∨
      (UnpackedFloat.div Format.binary64 u v = .zero .positive ∧
        UnpackedFloat.div Format.binary64 v u = .infinity .positive) ∨
      (UnpackedFloat.div Format.binary64 u v = .infinity .positive ∧
        UnpackedFloat.div Format.binary64 v u = .zero .positive) := by
  cases hu with
  | notANumber => cases hv <;> exact .inr (.inl ⟨rfl, rfl⟩)
  | zero =>
    cases hv with
    | notANumber => exact .inr (.inl ⟨rfl, rfl⟩)
    | zero => exact .inr (.inl ⟨rfl, rfl⟩)
    | finite => exact .inr (.inr (.inl ⟨rfl, rfl⟩))
    | infinity => exact .inr (.inr (.inl ⟨rfl, rfl⟩))
  | @finite m e hm =>
    cases hv with
    | notANumber => exact .inr (.inl ⟨rfl, rfl⟩)
    | zero => exact .inr (.inr (.inr ⟨rfl, rfl⟩))
    | @finite n f hn => exact .inl ⟨m, e, hm, n, f, hn, rfl, rfl⟩
    | infinity => exact .inr (.inr (.inl ⟨rfl, rfl⟩))
  | infinity =>
    cases hv with
    | notANumber => exact .inr (.inl ⟨rfl, rfl⟩)
    | zero => exact .inr (.inr (.inr ⟨rfl, rfl⟩))
    | finite => exact .inr (.inr (.inr ⟨rfl, rfl⟩))
    | infinity => exact .inr (.inl ⟨rfl, rfl⟩)

/-- **One quotient of two floats is above one exactly if the other is below one**, although
both are rounded. -/
theorem one_lt_div_iff_div_lt_one {x y : Float} (hx : IsUnsigned x) (hy : IsUnsigned y) :
    1.0 < y / x ↔ x / y < 1.0 := by
  obtain ⟨m, e, hm, n, f, hn, hfinite, hfinite'⟩ | ⟨hdiv, hdiv'⟩ | ⟨hdiv, hdiv'⟩ |
    ⟨hdiv, hdiv'⟩ := div_cases hx hy
  · rw [one_lt_div_iff hfinite' hfinite, div_lt_one_iff hfinite hfinite']
  all_goals
    rw [lt_iff, lt_iff, unpack_div, unpack_div, hdiv, hdiv']
    decide

end Stopwatch.Decimal
