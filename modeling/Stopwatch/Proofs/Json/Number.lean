import Stopwatch.Json.Number
import Stopwatch.Proofs.Decimal.Finite

/-!
# Floats of a document

Whatever number a literal stands for is finite: a literal that is too large stands for
none, and scaling down never leaves the range of floats. A float *reads back* if its
literal stands for it. Reading rounds twice, once for the digits and once for the power of
ten, so not every finite float does.

- `isFinite_of_toFloat?`: a float that was read is finite;
- `ReadsBack`: a float is read as it was written.
-/

namespace Stopwatch.Json.Literal

open Stopwatch.Decimal

/-! ### Powers of ten -/

theorem atLeast_largest : AtLeast 2 (powerOfTen 308) := by
  decide +kernel

theorem atLeast_exact : ∀ n < 23, AtLeast 1 (powerOfTen n) := by
  decide

/-- The powers of ten that numbers are divided by are no less than one. -/
theorem atLeast_powerOfTen {n : Nat} (h : n ≤ 308) : AtLeast 1 (powerOfTen n) := by
  by_cases hexact : n < 23
  · exact atLeast_exact n hexact
  · by_cases hlargest : n = 308
    · rw [hlargest]
      exact atLeast_largest.mono (by decide)
    · have hpower : powerOfTen n = .ofModel (.ofScientific 1 n) := by
        unfold powerOfTen Float.ofScientific
        rw [dif_neg (by omega)]
        rfl
      rw [hpower]
      exact atLeast_ofScientific (by omega)

/-- Scaling down raises the bound once, in its last step. -/
theorem below_scaleDown {b : Int} {x : Float} (h : Below b x) (hlow : -1074 ≤ b)
    (hhigh : b < 971) (n : Nat) : Below (b + 1) (scaleDown x n) := by
  induction n using Nat.strongRecOn generalizing x with
  | ind n ih =>
    rw [scaleDown]
    split
    -- the last division may raise it by one
    · exact h.div (atLeast_powerOfTen ‹n ≤ 308›) (by omega) (by omega) (by omega)
    · split
      · exact h.mono (by omega)
      -- a division by the largest power does not raise the bound
      · have hx : Below b (x / powerOfTen 308) :=
          h.div atLeast_largest (by omega) hlow (by omega)
        exact ih (n - 308) (by omega) hx

/-! ### Reading -/

theorem takeDigits_lt {value : Nat} (h : value < 2 ^ 64) (ds : List Char) :
    (takeDigits value ds).1 < 2 ^ 64 := by
  induction ds generalizing value with
  | nil => exact h
  | cons d ds ih =>
    simp only [takeDigits]
    split
    · rename_i hfits
      exact ih hfits
    · exact h

theorem isFinite_of_scale {b exponent : Int} {x y : Float} (hx : Below b x) (hlow : -1074 ≤ b)
    (hhigh : b < 971) (h : scale x exponent = some y) : isFinite y = true := by
  unfold scale at h
  split at h
  · obtain rfl := Option.some.inj h
    exact isFinite_iff_below.mpr ((below_scaleDown hx hlow hhigh _).mono (by omega))
  · split at h
    · dsimp only at h
      split at h
      · rename_i hfinite
        obtain rfl := Option.some.inj h
        exact hfinite
      · cases h
    · split at h
      · obtain rfl := Option.some.inj h
        exact isFinite_iff_below.mpr (hx.mono (by omega))
      · cases h

theorem isFinite_neg {x : Float} (h : isFinite x = true) : isFinite (-x) = true :=
  isFinite_iff_below.mpr ((isFinite_iff_below.mp h).neg (by decide) (by decide))

/-- A float that was read is finite. -/
theorem isFinite_of_toFloat? {n : Literal} {x : Float} (h : n.toFloat? = some x) :
    isFinite x = true := by
  have hwhole := takeDigits_lt (by decide : 0 < 2 ^ 64) n.whole
  have hall := takeDigits_lt hwhole n.fraction
  obtain ⟨y, hscale, hsign⟩ := Option.map_eq_some_iff.mp h
  have hy := isFinite_of_scale (below_ofNat hall) (by decide) (by decide) hscale
  split at hsign
  · obtain rfl := hsign
    exact isFinite_neg hy
  · obtain rfl := hsign
    exact hy

/-- The literal of a float stands for it. -/
def ReadsBack (x : Float) : Prop := (ofFloat? x).bind toFloat? = some x

instance (x : Float) : Decidable (ReadsBack x) := inferInstanceAs (Decidable (_ = _))

/-- Not every finite float reads back: one divided by the float nearest to `10 ^ 23` is
not the float nearest to `10 ^ -23`. -/
theorem not_readsBack : isFinite 1e-23 = true ∧ ¬ReadsBack 1e-23 := by
  decide +kernel

end Stopwatch.Json.Literal
