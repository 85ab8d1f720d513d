import Mathlib
import Stopwatch.Clock
import Stopwatch.Proofs.Decimal.Monotone

/-!
# Spans in milliseconds

Seconds and the rest of a second are turned into floats on their own and added, so a span in
milliseconds is rounded several times. It is never negative all the same, and a longer span never
has fewer milliseconds.

- `nonneg_milliseconds`: no span is negative;
- `secondsOf_mono`, `milliseconds_mono`: the order of spans is kept;
- `isAmount_milliseconds`: a span that the system can tell is finite.
-/

namespace Stopwatch

open Decimal

/-! ### Constants -/

theorem unpack_thousand : (1000.0 : Float).toModel.unpack =
    .finite .positive 8796093022208000 (-43) (by decide) := rfl

/-- The nanoseconds in a second. -/
theorem unpack_billion : (1e9 : Float).toModel.unpack =
    .finite .positive 8388608000000000 (-23) (by decide) := rfl

theorem isAmount_billion : IsAmount 1e9 ∧ magnitude 1e9 = 10 ^ 9 := by
  refine ⟨by decide, ?_⟩
  rw [magnitude_of_unpack unpack_billion]
  norm_num [value]

/-- **No span is negative, however long it is.** -/
theorem nonneg_milliseconds (n : Nat) : 0.0 ≤ milliseconds n := by
  refine nonneg_mul (nonneg_add (gives_ofNat _).nonneg ?_) unpack_thousand
  exact nonneg_div (gives_ofNat _).nonneg (by decide) (by decide)

/-! ### The rest of a second -/

/-- What a span has over whole seconds, in seconds. -/
def restOf (n : Nat) : Float := Float.ofNat (n % Span.second) / 1e9

theorem isAmount_nanoseconds (n : Nat) :
    IsAmount (Float.ofNat (n % Span.second)) ∧
      magnitude (Float.ofNat (n % Span.second)) = (n % Span.second : Nat) := by
  have hlt : n % Span.second < Span.second := Nat.mod_lt _ (by decide)
  have hsecond : Span.second ≤ 2 ^ 53 := by decide
  exact isAmount_ofNat (by omega)

theorem gives_restOf (n : Nat) : Gives ((n % Span.second : Nat) / 10 ^ 9) (restOf n) := by
  obtain ⟨hamount, hsize⟩ := isAmount_nanoseconds n
  obtain ⟨hbillion, hbillion'⟩ := isAmount_billion
  have hquotient := hamount.div hbillion (by rw [hbillion']; norm_num)
  rwa [hsize, hbillion'] at hquotient

/-- It is less than a second, rounded as it is. -/
theorem isAmount_restOf (n : Nat) : IsAmount (restOf n) ∧ magnitude (restOf n) < 1 := by
  have hlt : n % Span.second ≤ 999999999 := Nat.le_of_lt_succ (Nat.mod_lt _ (by decide))
  have hcast : ((n % Span.second : Nat) : ℚ) ≤ 999999999 := by exact_mod_cast hlt
  have hsmall : ((n % Span.second : Nat) : ℚ) / 10 ^ 9 ≤ 1 - 1 / 2 ^ 53 := by
    rw [div_le_iff₀ (by norm_num)]
    linarith
  have hamount := ((gives_restOf n).isAmount_of_le_two_pow (k := 0) (by decide)
    (hsmall.trans (by norm_num))).1
  exact ⟨hamount, ((gives_restOf n).nearest hamount).lt_one hsmall⟩

theorem restOf_mono {m n : Nat} (h : m % Span.second ≤ n % Span.second) : restOf m ≤ restOf n :=
  (isAmount_nanoseconds m).1.div_mono (isAmount_nanoseconds n).1 isAmount_billion.1
    (by rw [isAmount_billion.2]; norm_num) (ofNat_mono h)

/-! ### Seconds -/

/-- A span in seconds. -/
def secondsOf (n : Nat) : Float := Float.ofNat (n / Span.second) + restOf n

theorem milliseconds_eq (n : Nat) : milliseconds n = secondsOf n * 1000.0 := rfl

/-- Seconds that fit into 64 bits. -/
def longest : Nat := 2 ^ 64 * Span.second

section
variable {m n : Nat}

theorem whole_lt (h : n < longest) : n / Span.second < 2 ^ 64 :=
  (Nat.div_lt_iff_lt_mul (by decide)).mpr h

theorem isAmount_whole (h : n < longest) :
    IsAmount (Float.ofNat (n / Span.second)) ∧
      magnitude (Float.ofNat (n / Span.second)) ≤ 2 ^ 64 := by
  refine (gives_ofNat _).isAmount_of_le_two_pow (by decide) ?_
  exact_mod_cast (whole_lt h).le

theorem isAmount_secondsOf (h : n < longest) :
    IsAmount (secondsOf n) ∧ magnitude (secondsOf n) ≤ 2 ^ 65 := by
  obtain ⟨hwhole, hbound⟩ := isAmount_whole h
  obtain ⟨hrest, hsmall⟩ := isAmount_restOf n
  refine (hwhole.add hrest).isAmount_of_le_two_pow (by decide) ?_
  linarith

/-- The rest takes nothing away. -/
theorem whole_le_secondsOf (h : n < longest) :
    magnitude (Float.ofNat (n / Span.second)) ≤ magnitude (secondsOf n) := by
  have hwhole := (isAmount_whole h).1
  have hrest := (isAmount_restOf n).1
  have hnearest := (hwhole.add hrest).nearest (isAmount_secondsOf h).1
  exact hnearest.le_of_representable hwhole.representable (by linarith [hrest.magnitude_nonneg])

/-- A span does not get past the next whole second, although it is rounded. -/
theorem secondsOf_le_whole (hn : n < longest) (h : m / Span.second < n / Span.second) :
    magnitude (secondsOf m) ≤ magnitude (Float.ofNat (n / Span.second)) := by
  have hm : m < longest := (Nat.lt_of_div_lt_div h).trans hn
  obtain ⟨hwhole, -⟩ := isAmount_whole hm
  obtain ⟨hnext, -⟩ := isAmount_whole hn
  obtain ⟨hrest, hsmall⟩ := isAmount_restOf m
  have hsum := (isAmount_secondsOf hm).1
  by_cases hexact : m / Span.second < 2 ^ 53
  -- up to there every whole second is a float
  · have hsize := (isAmount_ofNat hexact.le).2
    have hstep := representable_natCast (Nat.succ_le_of_lt hexact)
    have hlow := ((hwhole.add hrest).nearest hsum).ge_of_representable hstep (by
      rw [hsize]
      push_cast
      linarith)
    have hhigh := ((gives_ofNat _).nearest hnext).le_of_representable hstep (by exact_mod_cast h)
    exact hlow.trans hhigh
  -- and then the rest of a second is lost
  · have hlarge := ((gives_ofNat _).nearest hwhole).le_of_representable
      (representable_two_pow 53) (by exact_mod_cast not_lt.mp hexact)
    have hlost := hwhole.magnitude_add_of_large hrest hsum hlarge hsmall
    have hmono := (hwhole.le_iff hnext).mp (ofNat_mono h.le)
    exact (le_of_eq hlost).trans hmono

theorem secondsOf_mono (hn : n < longest) (h : m ≤ n) : secondsOf m ≤ secondsOf n := by
  have hm : m < longest := h.trans_lt hn
  have hle : m / Span.second ≤ n / Span.second := Nat.div_le_div_right h
  obtain hlt | hsame := hle.lt_or_eq
  · rw [(isAmount_secondsOf hm).1.le_iff (isAmount_secondsOf hn).1]
    exact (secondsOf_le_whole hn hlt).trans (whole_le_secondsOf hn)
  -- within one second the rest decides
  · have hrest : m % Span.second ≤ n % Span.second := by
      have hsplit := Nat.div_add_mod m Span.second
      have hsplit' := Nat.div_add_mod n Span.second
      rw [hsame] at hsplit
      omega
    unfold secondsOf
    rw [hsame]
    exact (isAmount_whole hn).1.add_mono (isAmount_restOf m).1 (isAmount_restOf n).1
      (restOf_mono hrest)

/-- **A longer span never has fewer milliseconds.** -/
theorem milliseconds_mono (hn : n < longest) (h : m ≤ n) : milliseconds m ≤ milliseconds n := by
  rw [milliseconds_eq, milliseconds_eq]
  exact (isAmount_secondsOf (h.trans_lt hn)).1.mul_mono (isAmount_secondsOf hn).1 unpack_thousand
    (by decide) (secondsOf_mono hn h)

theorem isAmount_milliseconds (h : n < longest) : IsAmount (milliseconds n) := by
  obtain ⟨hseconds, hbound⟩ := isAmount_secondsOf h
  have hthousand : magnitude 1000.0 = 1000 := by
    rw [magnitude_of_unpack unpack_thousand]
    norm_num [value]
  have hproduct := hseconds.mul unpack_thousand (by decide)
  refine (hproduct.isAmount_of_le_two_pow (k := 75) (by decide) ?_).1
  rw [hthousand]
  linarith

end

end Stopwatch
