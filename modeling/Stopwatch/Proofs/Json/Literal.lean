import Mathlib.Algebra.Group.Nat.Defs
import Mathlib.Tactic.SplitIfs
import Stopwatch.Json.Number

/-!
# Number literals

A literal is *well formed* if it has digits where a number must have some and no zero in
front. Such a literal is read back as it was written, and every machine number is written
as one.

- `Literal.WellFormed`, `ofChars?_chars`: what is read back;
- `wellFormed_ofNat`, `wellFormed_ofInt`, `wellFormed_of_ofFloat?`: what is written;
- `toNat?_ofNat`, `toInt?_ofInt`: integers mean the same when they are read.
-/

namespace Stopwatch.Json.Literal

/-- Digits before the point, without a zero in front, and nothing but digits after it. -/
structure WellFormed (n : Literal) : Prop where
  whole_ne_nil : n.whole ≠ []
  whole_digits : ∀ c ∈ n.whole, c.isDigit = true
  no_leading_zero : n.whole.head? = some '0' → n.whole.length = 1
  fraction_digits : ∀ c ∈ n.fraction, c.isDigit = true

/-! ### Reading back what was written -/

/-- A text that digits end before. -/
def Digitless (cs : List Char) : Prop := ∀ c rest, cs = c :: rest → c.isDigit = false

theorem takeWhile_isDigit_append {ds rest : List Char} (hds : ∀ c ∈ ds, c.isDigit = true)
    (hrest : Digitless rest) : (ds ++ rest).takeWhile Char.isDigit = ds := by
  rw [List.takeWhile_append_of_pos hds]
  cases rest with
  | nil => rw [List.takeWhile_nil, List.append_nil]
  | cons c rest => rw [List.takeWhile_cons_of_neg (by simp [hrest c rest rfl]), List.append_nil]

theorem dropWhile_isDigit_append {ds rest : List Char} (hds : ∀ c ∈ ds, c.isDigit = true)
    (hrest : Digitless rest) : (ds ++ rest).dropWhile Char.isDigit = rest := by
  rw [List.dropWhile_append_of_pos hds]
  cases rest with
  | nil => rfl
  | cons c rest => rw [List.dropWhile_cons_of_neg (by simp [hrest c rest rfl])]

theorem isDigit_of_mem_toDigits {n : Nat} {c : Char} (h : c ∈ Nat.toDigits 10 n) :
    c.isDigit = true :=
  Nat.isDigit_of_mem_toDigits (by decide) (by decide) h

theorem digitless_exponentChars (e : Option Exponent) : Digitless (exponentChars e) := by
  intro c rest heq
  cases e with
  | none => cases heq
  | some e =>
    obtain ⟨rfl, _⟩ := List.cons.inj heq
    decide

theorem exponent?_exponentChars (e : Option Exponent) :
    exponent? (exponentChars e) = some e := by
  cases e with
  | none => rfl
  | some e =>
    obtain ⟨negative, value⟩ := e
    have hempty : (Nat.toDigits 10 value).isEmpty = false := by
      simp [Nat.toDigits_ne_nil]
    have hdigits : (Nat.toDigits 10 value).all Char.isDigit = true :=
      List.all_eq_true.mpr fun c hc => isDigit_of_mem_toDigits hc
    cases negative <;>
      simp [exponentChars, exponent?, hempty, hdigits, Nat.ofDigitChars_ten_toDigits]

/-- The characters after the digits before the point. -/
def tailChars (n : Literal) : List Char :=
  (if n.fraction.isEmpty then [] else '.' :: n.fraction) ++ exponentChars n.exponent

theorem digitless_tailChars (n : Literal) : Digitless n.tailChars := by
  unfold tailChars
  split
  · exact digitless_exponentChars n.exponent
  · intro c rest heq
    obtain ⟨rfl, _⟩ := List.cons.inj heq
    decide

theorem magnitude?_chars {n : Literal} (h : n.WellFormed) :
    magnitude? n.negative (n.whole ++ n.tailChars) = some n := by
  have hwhole := takeWhile_isDigit_append h.whole_digits (digitless_tailChars n)
  have htail := dropWhile_isDigit_append h.whole_digits (digitless_tailChars n)
  obtain ⟨negative, whole, fraction, exponent⟩ := n
  have hempty : whole.isEmpty = false := by simpa using h.whole_ne_nil
  have hzero : ¬(whole.head? = some '0' ∧ whole.length ≠ 1) := fun ⟨hhead, hlength⟩ =>
    hlength (h.no_leading_zero hhead)
  simp only [magnitude?, hwhole, htail, hempty, hzero, Bool.false_or, Bool.and_eq_true,
    decide_eq_true_eq, if_false]
  cases fraction with
  | nil =>
    -- without a point, what follows the digits is the exponent
    have hexponent : tailChars ⟨negative, whole, [], exponent⟩ = exponentChars exponent := rfl
    rw [hexponent]
    cases exponent with
    | none => rfl
    | some e =>
      show (exponent? (exponentChars (some e))).map _ = _
      rw [exponent?_exponentChars, Option.map_some]
  | cons d ds =>
    have hfraction : (d :: ds ++ exponentChars exponent).takeWhile Char.isDigit = d :: ds :=
      takeWhile_isDigit_append h.fraction_digits (digitless_exponentChars exponent)
    have hrest : (d :: ds ++ exponentChars exponent).dropWhile Char.isDigit =
        exponentChars exponent :=
      dropWhile_isDigit_append h.fraction_digits (digitless_exponentChars exponent)
    show (if ((d :: ds ++ exponentChars exponent).takeWhile Char.isDigit).isEmpty then none
      else (exponent? ((d :: ds ++ exponentChars exponent).dropWhile Char.isDigit)).map
        fun e => Literal.mk negative whole
          ((d :: ds ++ exponentChars exponent).takeWhile Char.isDigit) e) = _
    rw [hfraction, hrest, exponent?_exponentChars]
    rfl

/-- A well-formed literal is read back as it was written. -/
theorem ofChars?_chars {n : Literal} (h : n.WellFormed) : ofChars? n.chars = some n := by
  have hchars : n.chars = (if n.negative then ['-'] else []) ++ (n.whole ++ n.tailChars) := by
    simp only [chars, tailChars, List.append_assoc]
  have hmagnitude := magnitude?_chars h
  rw [hchars]
  cases hnegative : n.negative with
  | true =>
    rw [hnegative] at hmagnitude
    exact hmagnitude
  | false =>
    rw [hnegative] at hmagnitude
    -- the first digit is not taken for a sign
    cases hwhole : n.whole with
    | nil => exact absurd hwhole h.whole_ne_nil
    | cons d ds =>
      have hminus : d ≠ '-' := by
        rintro rfl
        exact absurd (h.whole_digits '-' (by rw [hwhole]; exact List.mem_cons_self)) (by decide)
      rw [hwhole] at hmagnitude
      simp only [Bool.false_eq_true, if_false, List.nil_append,
        List.cons_append] at hmagnitude ⊢
      unfold ofChars?
      split
      · rename_i heq
        exact absurd (List.cons.inj heq).1 hminus
      · exact hmagnitude

/-! ### What machine numbers are written as -/

theorem digitChar_eq_zero : ∀ n < 10, Nat.digitChar n = '0' → n = 0 := by
  decide

theorem head?_toDigits {n : Nat} (h : (Nat.toDigits 10 n).head? = some '0') : n = 0 := by
  induction n using Nat.strongRecOn with
  | ind n ih =>
    by_cases hn : n < 10
    · rw [Nat.toDigits_of_lt_base hn] at h
      exact digitChar_eq_zero n hn (Option.some.inj h)
    · rw [Nat.toDigits_of_base_le (by decide) (by omega), List.head?_append] at h
      have hhead : (Nat.toDigits 10 (n / 10)).head? = some '0' := by
        cases hdigits : Nat.toDigits 10 (n / 10) with
        | nil => exact absurd hdigits Nat.toDigits_ne_nil
        | cons d ds => simpa [hdigits] using h
      -- the digits in front are those of a tenth, which would be zero
      have hzero := ih (n / 10) (by omega) hhead
      omega

theorem wellFormed_of_digits (negative : Bool) (n : Nat) :
    WellFormed ⟨negative, Nat.toDigits 10 n, [], none⟩ where
  whole_ne_nil := Nat.toDigits_ne_nil
  whole_digits _ := isDigit_of_mem_toDigits
  no_leading_zero h := by
    rw [head?_toDigits h]
    rfl
  fraction_digits := nofun

theorem wellFormed_ofNat (n : Nat) : (ofNat n).WellFormed := wellFormed_of_digits false n

theorem wellFormed_ofInt (n : Int) : (ofInt n).WellFormed := wellFormed_of_digits _ n.natAbs

theorem toNat?_ofNat {bits n : Nat} (h : n < 2 ^ bits) : (ofNat n).toNat? bits = some n := by
  have hvalue : (ofNat n).wholeValue = n := Nat.ofDigitChars_ten_toDigits
  unfold toNat?
  rw [hvalue, if_pos ⟨rfl, rfl, h⟩]

theorem toInt?_ofInt {n : Int} (hlow : -0x8000000000000000 ≤ n)
    (hhigh : n < 0x8000000000000000) : (ofInt n).toInt? = some n := by
  have hvalue : (ofInt n).wholeValue = n.natAbs := Nat.ofDigitChars_ten_toDigits
  have hinteger : (ofInt n).isInteger = true := rfl
  have hsign : (ofInt n).negative = decide (n < 0) := rfl
  unfold toInt?
  rw [hvalue, hinteger, hsign, if_pos rfl]
  by_cases hnegative : n < 0
  · rw [if_pos (by simpa using hnegative), if_pos (by omega)]
    exact congrArg some (by omega)
  · rw [if_neg (by simpa using hnegative), if_pos (by omega)]
    exact congrArg some (by omega)

end Stopwatch.Json.Literal

namespace Stopwatch.Decimal.Shortest

/-! ### The digits of a float -/

theorem Interval.lower_pos {mantissa : Nat} (h : 0 < mantissa) (exponent : Int) :
    0 < (Interval.of mantissa exponent).lower := by
  have hbelow : Binary.below mantissa exponent ≤ 2 := by
    unfold Binary.below
    split <;> decide
  exact Nat.mul_pos (by omega) (Nat.pow_pos (by decide))

theorem Interval.digits_pos_of_contains {i : Interval} (hlower : 0 < i.lower) {d : Scientific}
    (h : i.contains d = true) : 0 < d.digits := by
  have hshift : 0 < i.lower * Nat.pow 10 (-d.exponent).toNat :=
    Nat.mul_pos hlower (Nat.pow_pos (by decide))
  rw [Nat.pos_iff_ne_zero]
  intro hzero
  simp only [contains, hzero, Nat.zero_mul] at h
  split at h
  · simp only [Bool.and_eq_true, decide_eq_true_eq] at h
    omega
  · simp only [Bool.and_eq_true, decide_eq_true_eq] at h
    omega

theorem Interval.contains_of_pick {i : Interval} {near far d : Scientific}
    (h : (if i.contains near then some near else if i.contains far then some far else none) =
      some d) :
    i.contains d = true := by
  split at h
  · rename_i hnear
    rwa [← Option.some.inj h]
  · split at h
    · rename_i hfar
      rwa [← Option.some.inj h]
    · cases h

theorem Interval.contains_of_onGrid {i : Interval} {exponent : Int} {d : Scientific}
    (h : i.onGrid exponent = some d) : i.contains d = true := by
  simp only [onGrid] at h
  split at h
  · exact contains_of_pick h
  · exact contains_of_pick h

theorem Interval.contains_of_coarsest {i : Interval} {steps : Nat} {exponent : Int}
    {d : Scientific} (h : i.coarsest steps exponent = some d) : i.contains d = true := by
  induction steps generalizing exponent with
  | zero => cases h
  | succ steps ih =>
    rw [coarsest] at h
    split at h
    · rename_i hgrid
      rw [← Option.some.inj h]
      exact contains_of_onGrid hgrid
    · exact ih h

theorem strip_digits_pos {fuel : Nat} {d : Scientific} (h : 0 < d.digits) :
    0 < (strip fuel d).digits := by
  induction fuel generalizing d with
  | zero => exact h
  | succ fuel ih =>
    rw [strip]
    split
    · rename_i hzero
      refine ih ?_
      show 0 < d.digits / 10
      omega
    · exact h

theorem exact_digits_pos {mantissa : Nat} (h : 0 < mantissa) (exponent : Int) :
    0 < (exact mantissa exponent).digits := by
  unfold exact
  split
  · exact Nat.mul_pos h (Nat.pow_pos (by decide))
  · exact Nat.mul_pos h (Nat.pow_pos (by decide))

/-- A positive float has a first digit. -/
theorem digits_pos {mantissa : Nat} (h : 0 < mantissa) (exponent : Int) :
    0 < (digits mantissa exponent).digits := by
  unfold digits
  split
  · rename_i hsome
    exact strip_digits_pos
      (Interval.digits_pos_of_contains (Interval.lower_pos h exponent)
        (Interval.contains_of_coarsest hsome))
  · exact exact_digits_pos h exponent

end Stopwatch.Decimal.Shortest

namespace Stopwatch.Json.Literal

open Stopwatch.Decimal (Scientific)

theorem all_isDigit_replicate (n : Nat) : ∀ c ∈ List.replicate n '0', c.isDigit = true := by
  intro c hc
  rw [List.eq_of_mem_replicate hc]
  decide

theorem wellFormed_ofScientific (negative : Bool) {d : Scientific} (h : 0 < d.digits) :
    (ofScientific negative d).WellFormed := by
  have hds : ∀ c ∈ Nat.toDigits 10 d.digits, c.isDigit = true :=
    fun _ => isDigit_of_mem_toDigits
  have hhead : (Nat.toDigits 10 d.digits).head? ≠ some '0' := fun hzero =>
    absurd (head?_toDigits hzero) (by omega)
  have htake (n : Nat) : ((Nat.toDigits 10 d.digits).take (n + 1)).head? =
      (Nat.toDigits 10 d.digits).head? := by
    rw [List.head?_take]
    rfl
  have hne (n : Nat) : (Nat.toDigits 10 d.digits).take (n + 1) ≠ [] := by
    simp [Nat.toDigits_ne_nil]
  have hall {cs ds : List Char} (hcs : ∀ c ∈ cs, c.isDigit = true)
      (hds : ∀ c ∈ ds, c.isDigit = true) :
      ∀ c ∈ cs ++ ds, c.isDigit = true := List.forall_mem_append.mpr ⟨hcs, hds⟩
  simp only [ofScientific]
  split_ifs
  -- whole, with a point inside, below one, and with an exponent
  · exact {
      whole_ne_nil := by simp [Nat.toDigits_ne_nil]
      whole_digits := hall hds (all_isDigit_replicate _)
      no_leading_zero := fun hzero => by
        cases hdigits : Nat.toDigits 10 d.digits with
        | nil => exact absurd hdigits Nat.toDigits_ne_nil
        | cons c cs => exact absurd (by simpa [hdigits] using hzero) hhead
      fraction_digits := all_isDigit_replicate 1 }
  · exact {
      whole_ne_nil := hne _
      whole_digits := fun c hc => hds c (List.mem_of_mem_take hc)
      no_leading_zero := fun hzero => absurd ((htake _).symm.trans hzero) hhead
      fraction_digits := fun c hc => hds c (List.mem_of_mem_drop hc) }
  · exact {
      whole_ne_nil := List.cons_ne_nil _ _
      whole_digits := all_isDigit_replicate 1
      no_leading_zero := fun _ => rfl
      fraction_digits := hall (all_isDigit_replicate _) hds }
  · exact {
      whole_ne_nil := hne 0
      whole_digits := fun c hc => hds c (List.mem_of_mem_take hc)
      no_leading_zero := fun hzero => absurd ((htake 0).symm.trans hzero) hhead
      fraction_digits := fun c hc => hds c (List.mem_of_mem_drop hc) }

theorem wellFormed_of_ofFloat? {x : Float} {n : Literal} (h : ofFloat? x = some n) :
    n.WellFormed := by
  unfold ofFloat? at h
  split at h
  · split at h
    · rw [← Option.some.inj h]
      exact ⟨List.cons_ne_nil _ _, all_isDigit_replicate 1, fun _ => rfl,
        all_isDigit_replicate 1⟩
    · rename_i hpos
      rw [← Option.some.inj h]
      exact wellFormed_ofScientific _ (Decimal.Shortest.digits_pos (Nat.pos_of_ne_zero hpos) _)
  · cases h

/-- Exactly the finite floats are written as numbers. -/
theorem isSome_ofFloat? (x : Float) : (ofFloat? x).isSome = Decimal.isFinite x := by
  unfold ofFloat? Decimal.isFinite Decimal.Binary.ofFloat
  by_cases hexponent :
      x.toBits.toNat / Decimal.Binary.leadingBit % Decimal.Binary.exponentCount =
        Decimal.Binary.exponentCount - 1
  · simp only [hexponent, if_true, bne_self_eq_false]
    split_ifs <;> rfl
  · rw [bne_iff_ne.mpr hexponent]
    simp only [hexponent, if_false]
    by_cases hleast :
        x.toBits.toNat / Decimal.Binary.leadingBit % Decimal.Binary.exponentCount = 0
    · simp only [hleast, if_true]
      split_ifs <;> rfl
    · simp only [hleast, if_false]
      split_ifs <;> rfl

end Stopwatch.Json.Literal
