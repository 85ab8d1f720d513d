import Mathlib
import Stopwatch.Memory
import Stopwatch.Proofs.Text.Lines

/-!
# What a status text tells about memory

A status text states a figure under a key if the first line that starts with the key goes on with a
number. A snapshot has the stated figures in bytes, which are 1024 times as much, and none of them is off:
a figure from 2^54 kibibytes on has no number of bytes among the words, and ends the program. The difference
of two snapshots never does. It is exact in every field, up to the range of signed words.

- `States`: the figure that is stated under a key;
- `figure?_eq_error_iff` and its siblings: what becomes of a stated figure;
- `Snapshot.Tells`: the snapshot of a status text;
- `difference_eq`, `Delta.Spans`: the difference of two words, and of two snapshots;
- `Snapshot.ofStatus?_tells`: which snapshot is read, when the program ends, and what a difference is;
- `Snapshot.no_snapshot_of_large_figure`: a figure that is too large.
-/

namespace Stopwatch.Memory

/-! ### Numbers -/

/-- An optional plus sign and the digits of a number that fits into 64 bits. -/
structure Numeral (word : List Char) (n : Nat) : Prop where
  spelled : ∃ sign digits, word = sign ++ digits ∧ (sign = [] ∨ sign = ['+']) ∧ digits ≠ [] ∧
    (∀ d ∈ digits, d.isDigit = true) ∧ n = Nat.ofDigitChars 10 digits 0
  fits : n < 2 ^ 64

/-- What is left of a word without a plus sign in front. -/
def unsignedPart : List Char → List Char
  | '+' :: ds => ds
  | ds => ds

theorem exists_eq_append_unsignedPart (word : List Char) :
    ∃ sign, word = sign ++ unsignedPart word ∧ (sign = [] ∨ sign = ['+']) := by
  unfold unsignedPart
  split
  · exact ⟨['+'], rfl, .inr rfl⟩
  · exact ⟨[], rfl, .inl rfl⟩

/-- A word that goes on with a digit has no other sign in it. -/
theorem unsignedPart_append {sign digits : List Char} (hsign : sign = [] ∨ sign = ['+'])
    (hdigits : ∀ d ∈ digits, d.isDigit = true) : unsignedPart (sign ++ digits) = digits := by
  obtain rfl | rfl := hsign
  · rw [List.nil_append]
    unfold unsignedPart
    split
    · exact absurd (hdigits '+' List.mem_cons_self) (by decide)
    · rfl
  · rfl

theorem unsigned?_eq (word : List Char) :
    unsigned? word =
      if (unsignedPart word).isEmpty || !(unsignedPart word).all Char.isDigit then none
      else if Nat.ofDigitChars 10 (unsignedPart word) 0 < 2 ^ 64 then
        some (UInt64.ofNat (Nat.ofDigitChars 10 (unsignedPart word) 0))
      else none := rfl

theorem unsigned?_eq_some_iff {word : List Char} {v : UInt64} :
    unsigned? word = some v ↔ Numeral word v.toNat := by
  rw [unsigned?_eq]
  constructor
  · intro h
    split at h
    · cases h
    rename_i hread
    split at h
    · rename_i hfits
      obtain rfl := Option.some.inj h
      obtain ⟨sign, hword, hsign⟩ := exists_eq_append_unsignedPart word
      have hvalue := UInt64.toNat_ofNat_of_lt' hfits
      simp only [Bool.or_eq_true, List.isEmpty_iff, Bool.not_eq_true', not_or,
        Bool.not_eq_false, List.all_eq_true] at hread
      exact ⟨⟨sign, _, hword, hsign, hread.1, hread.2, hvalue⟩, hvalue.trans_lt hfits⟩
    · cases h
  · rintro ⟨⟨sign, digits, rfl, hsign, hne, hdigits, hvalue⟩, hfits⟩
    have hread : ¬(digits.isEmpty || !digits.all Char.isDigit) = true := by
      simpa [hne] using hdigits
    rw [unsignedPart_append hsign hdigits, if_neg hread, ← hvalue, if_pos hfits,
      UInt64.ofNat_toNat]

/-! ### Stated figures -/

/-- The first line that starts with the key goes on with this number. -/
def States (key status : String) (n : Nat) : Prop :=
  ∃ before rest after, Text.lines status.toList = before ++ (key.toList ++ rest) :: after ∧
    (∀ line ∈ before, ¬key.toList <+: line) ∧ ∃ word, Text.FirstWord rest word ∧ Numeral word n

theorem kibibytes?_eq_some_iff {key status : String} {v : UInt64} :
    kibibytes? key (Text.lines status.toList) = some v ↔ States key status v.toNat := by
  have hlength : key.length = key.toList.length := String.length_toList.symm
  simp only [kibibytes?, Option.bind_eq_bind, Option.bind_eq_some_iff,
    List.find?_eq_some_iff_append, Text.head?_words_eq_some_iff, unsigned?_eq_some_iff,
    List.isPrefixOf_iff_prefix, hlength]
  constructor
  · rintro ⟨_, ⟨⟨rest, rfl⟩, before, after, hlines, hbefore⟩, word, hword, hnumeral⟩
    rw [List.drop_left] at hword
    refine ⟨before, rest, after, hlines, fun line hline hkey => ?_, word, hword, hnumeral⟩
    simpa [List.isPrefixOf_iff_prefix.mpr hkey] using hbefore line hline
  · rintro ⟨before, rest, after, hlines, hbefore, word, hword, hnumeral⟩
    refine ⟨_, ⟨⟨rest, rfl⟩, before, after, hlines, fun line hline => ?_⟩, word, ?_, hnumeral⟩
    · simpa [← List.isPrefixOf_iff_prefix] using hbefore line hline
    · rwa [List.drop_left]

namespace States

variable {key status : String} {m n : Nat}

theorem exists_word (h : States key status n) :
    ∃ v : UInt64, v.toNat = n ∧ kibibytes? key (Text.lines status.toList) = some v := by
  have hfits : n < 2 ^ 64 := by
    obtain ⟨_, _, _, _, _, _, _, hnumeral⟩ := h
    exact hnumeral.fits
  have hvalue := UInt64.toNat_ofNat_of_lt' hfits
  exact ⟨_, hvalue, kibibytes?_eq_some_iff.mpr (hvalue.symm ▸ h)⟩

/-- A status text states one figure under a key. -/
theorem unique (hm : States key status m) (hn : States key status n) : m = n := by
  obtain ⟨v, rfl, hv⟩ := hm.exists_word
  obtain ⟨w, rfl, hw⟩ := hn.exists_word
  rw [Option.some.inj (hv.symm.trans hw)]

end States

theorem kibibytes?_eq_none_iff {key status : String} :
    kibibytes? key (Text.lines status.toList) = none ↔ ∀ n, ¬States key status n := by
  constructor
  · intro h n hn
    obtain ⟨v, -, hv⟩ := hn.exists_word
    rw [h] at hv
    cases hv
  · intro h
    refine Option.eq_none_iff_forall_ne_some.mpr fun v hv => ?_
    exact h _ (kibibytes?_eq_some_iff.mp hv)

/-! ### Figures in bytes -/

theorem product_1024_eq (v : UInt64) :
    Checked.product v 1024 = if v.toNat < 2 ^ 54 then .ok (v * 1024) else .error (.overflow .product) := by
  have hfactor : (1024 : UInt64).toNat = 1024 := rfl
  have hsize : UInt64.size = 2 ^ 64 := rfl
  have hfits : v.toNat * 1024 < UInt64.size ↔ v.toNat < 2 ^ 54 := by omega
  rw [Checked.product, hfactor, if_congr hfits rfl rfl]

/-- Nothing is lost of a product that is a word. -/
theorem toNat_mul_1024 {v : UInt64} (h : v.toNat < 2 ^ 54) : (v * 1024).toNat = 1024 * v.toNat := by
  have hfactor : (1024 : UInt64).toNat = 1024 := rfl
  rw [UInt64.toNat_mul, hfactor, Nat.mul_comm]
  exact Nat.mod_eq_of_lt (by omega)

section
variable {key status : String} {n : Nat}

/-- A figure that is not stated is not there. -/
theorem figure?_of_none (h : ∀ n, ¬States key status n) :
    figure? key (Text.lines status.toList) = .ok none := by
  rw [figure?, kibibytes?_eq_none_iff.mpr h]
  rfl

/-- A stated figure is read in bytes if they are a word. -/
theorem figure?_of_small (h : States key status n) (hn : n < 2 ^ 54) :
    ∃ w : UInt64, w.toNat = 1024 * n ∧ figure? key (Text.lines status.toList) = .ok (some w) := by
  obtain ⟨v, rfl, hv⟩ := h.exists_word
  refine ⟨v * 1024, toNat_mul_1024 hn, ?_⟩
  rw [figure?, hv]
  dsimp only
  rw [product_1024_eq, if_pos hn]
  rfl

/-- A stated figure whose bytes are no word ends the program. -/
theorem figure?_of_large (h : States key status n) (hn : 2 ^ 54 ≤ n) :
    figure? key (Text.lines status.toList) = .error (.overflow .product) := by
  obtain ⟨v, rfl, hv⟩ := h.exists_word
  rw [figure?, hv]
  dsimp only
  rw [product_1024_eq, if_neg hn.not_gt]
  rfl

/-- A text states no figure under a key, a small one or a large one. -/
theorem states_cases (key status : String) :
    (∀ n, ¬States key status n) ∨ (∃ n, States key status n ∧ n < 2 ^ 54) ∨
      ∃ n, States key status n ∧ 2 ^ 54 ≤ n := by
  by_cases h : ∃ n, States key status n
  · obtain ⟨n, hn⟩ := h
    obtain hsmall | hlarge := Nat.lt_or_ge n (2 ^ 54)
    · exact .inr (.inl ⟨n, hn, hsmall⟩)
    · exact .inr (.inr ⟨n, hn, hlarge⟩)
  · exact .inl (not_exists.mp h)

theorem figure?_eq_error_iff {h : Halt} :
    figure? key (Text.lines status.toList) = .error h ↔
      h = .overflow .product ∧ ∃ n, States key status n ∧ 2 ^ 54 ≤ n := by
  obtain hnone | ⟨n, hn, hsmall⟩ | ⟨n, hn, hlarge⟩ := states_cases key status
  · rw [figure?_of_none hnone]
    exact iff_of_false nofun fun ⟨_, n, hn, _⟩ => hnone n hn
  · obtain ⟨w, -, hw⟩ := figure?_of_small hn hsmall
    rw [hw]
    exact iff_of_false nofun fun ⟨_, m, hm, hlarge⟩ => by
      rw [hn.unique hm] at hsmall
      exact hlarge.not_gt hsmall
  · rw [figure?_of_large hn hlarge, Except.error.injEq, eq_comm]
    exact (and_iff_left ⟨n, hn, hlarge⟩).symm

theorem figure?_eq_none_iff :
    figure? key (Text.lines status.toList) = .ok none ↔ ∀ n, ¬States key status n := by
  obtain hnone | ⟨n, hn, hsmall⟩ | ⟨n, hn, hlarge⟩ := states_cases key status
  · exact iff_of_true (figure?_of_none hnone) hnone
  · obtain ⟨w, -, hw⟩ := figure?_of_small hn hsmall
    rw [hw]
    exact iff_of_false nofun fun hnone => hnone n hn
  · rw [figure?_of_large hn hlarge]
    exact iff_of_false nofun fun hnone => hnone n hn

theorem figure?_eq_some_iff {w : UInt64} :
    figure? key (Text.lines status.toList) = .ok (some w) ↔
      ∃ n, States key status n ∧ w.toNat = 1024 * n := by
  obtain hnone | ⟨n, hn, hsmall⟩ | ⟨n, hn, hlarge⟩ := states_cases key status
  · rw [figure?_of_none hnone]
    exact iff_of_false nofun fun ⟨n, hn, _⟩ => hnone n hn
  · obtain ⟨v, hv, hfigure⟩ := figure?_of_small hn hsmall
    rw [hfigure, Except.ok.injEq, Option.some.injEq]
    constructor
    · rintro rfl
      exact ⟨n, hn, hv⟩
    · rintro ⟨m, hm, hw⟩
      rw [hm.unique hn, ← hv] at hw
      exact UInt64.toNat_inj.mp hw.symm
  · rw [figure?_of_large hn hlarge]
    refine iff_of_false nofun fun ⟨m, hm, hw⟩ => ?_
    have hword := w.toNat_lt
    rw [hn.unique hm] at hlarge
    omega

end

/-- A word has the figure that is stated under a key in bytes, or falls back if there is none. -/
def Shows (key status : String) (fallback w : UInt64) : Prop :=
  (∃ n, States key status n ∧ w.toNat = 1024 * n) ∨ (∀ n, ¬States key status n) ∧ w = fallback

theorem shows_iff {key status : String} {fallback w : UInt64} :
    Shows key status fallback w ↔
      ∃ figure, figure? key (Text.lines status.toList) = .ok figure ∧ figure.getD fallback = w := by
  constructor
  · rintro (hstated | ⟨hnone, rfl⟩)
    · exact ⟨some w, figure?_eq_some_iff.mpr hstated, rfl⟩
    · exact ⟨none, figure?_eq_none_iff.mpr hnone, rfl⟩
  · rintro ⟨_ | v, hfigure, rfl⟩
    · exact .inr ⟨figure?_eq_none_iff.mp hfigure, rfl⟩
    · exact .inl (figure?_eq_some_iff.mp hfigure)

/-! ### Snapshots -/

/-- The keys under which a status text states the figures of a snapshot. -/
def keys : List String := ["VmRSS:", "VmSize:", "VmHWM:"]

/-- The snapshot that belongs to a status text. There is none without a resident size; the virtual size
falls back to zero, and the peak to the resident size. -/
structure Snapshot.Tells (status : String) (s : Snapshot) : Prop where
  rss : ∃ n, States "VmRSS:" status n ∧ s.rss.toNat = 1024 * n
  virtual : Shows "VmSize:" status 0 s.virtual
  peakRss : Shows "VmHWM:" status s.rss s.peakRss

/-- Two actions in a row go well if the first one does and the second one does after it. -/
theorem bind_eq_ok_iff {α β : Type} {act : Except Halt α} {f : α → Except Halt β} {b : β} :
    (act >>= f) = .ok b ↔ ∃ a, act = .ok a ∧ f a = .ok b := by
  cases act with
  | error h => exact iff_of_false nofun fun ⟨_, hok, _⟩ => by cases hok
  | ok a => exact ⟨fun h => ⟨a, rfl, h⟩, fun ⟨_, hok, h⟩ => by cases hok; exact h⟩

/-- Two actions in a row end the program if one of them does. -/
theorem bind_eq_error_iff {α β : Type} {act : Except Halt α} {f : α → Except Halt β} {h : Halt} :
    (act >>= f) = .error h ↔ act = .error h ∨ ∃ a, act = .ok a ∧ f a = .error h := by
  cases act with
  | error e =>
    constructor
    · intro herror
      cases herror
      exact .inl rfl
    · rintro (herror | ⟨_, hok, -⟩)
      · cases herror
        rfl
      · cases hok
  | ok a =>
    refine ⟨fun herror => .inr ⟨a, rfl, herror⟩, fun hor => hor.elim nofun ?_⟩
    rintro ⟨_, hok, herror⟩
    cases hok
    exact herror

namespace Snapshot

variable {status : String} {s : Snapshot}

/-- The other figures of a snapshot, once the resident size is known. -/
def rest (status : String) (rss : UInt64) : Except Halt (Option Snapshot) := do
  let virtual ← figure? "VmSize:" (Text.lines status.toList)
  let peakRss ← figure? "VmHWM:" (Text.lines status.toList)
  return some ⟨rss, virtual.getD 0, peakRss.getD rss⟩

theorem ofStatus?_of_rss {rss : UInt64}
    (h : figure? "VmRSS:" (Text.lines status.toList) = .ok (some rss)) :
    ofStatus? status = rest status rss := by
  unfold ofStatus?
  dsimp only
  rw [h]
  rfl

theorem ofStatus?_of_none (h : figure? "VmRSS:" (Text.lines status.toList) = .ok none) :
    ofStatus? status = .ok none := by
  unfold ofStatus?
  dsimp only
  rw [h]
  rfl

theorem ofStatus?_of_error {halt : Halt}
    (h : figure? "VmRSS:" (Text.lines status.toList) = .error halt) :
    ofStatus? status = .error halt := by
  unfold ofStatus?
  dsimp only
  rw [h]
  rfl

theorem rest_eq_some_iff {rss : UInt64} :
    rest status rss = .ok (some s) ↔
      s.rss = rss ∧ Shows "VmSize:" status 0 s.virtual ∧ Shows "VmHWM:" status rss s.peakRss := by
  simp only [rest, bind_eq_ok_iff, shows_iff]
  constructor
  · rintro ⟨virtual, hvirtual, peakRss, hpeak, hs⟩
    cases hs
    exact ⟨rfl, ⟨virtual, hvirtual, rfl⟩, peakRss, hpeak, rfl⟩
  · rintro ⟨rfl, ⟨virtual, hvirtual, hvirtual'⟩, peakRss, hpeak, hpeak'⟩
    refine ⟨virtual, hvirtual, peakRss, hpeak, ?_⟩
    rw [hvirtual', hpeak']
    rfl

theorem rest_ne_none (rss : UInt64) : rest status rss ≠ .ok none := by
  simp only [rest, ne_eq, bind_eq_ok_iff]
  rintro ⟨_, _, _, _, hs⟩
  cases hs

theorem rest_eq_error_iff {rss : UInt64} {h : Halt} :
    rest status rss = .error h ↔ h = .overflow .product ∧
      ((∃ n, States "VmSize:" status n ∧ 2 ^ 54 ≤ n) ∨ ∃ n, States "VmHWM:" status n ∧ 2 ^ 54 ≤ n) := by
  simp only [rest, bind_eq_error_iff, figure?_eq_error_iff]
  constructor
  · rintro (⟨rfl, hvirtual⟩ | ⟨_, -, ⟨rfl, hpeak⟩ | ⟨_, -, hs⟩⟩)
    · exact ⟨rfl, .inl hvirtual⟩
    · exact ⟨rfl, .inr hpeak⟩
    · cases hs
  · rintro ⟨rfl, hvirtual | hpeak⟩
    · exact .inl ⟨rfl, hvirtual⟩
    · cases hsize : figure? "VmSize:" (Text.lines status.toList) with
      | error h => exact .inl (figure?_eq_error_iff.mp (by rw [hsize, (figure?_eq_error_iff.mp hsize).1]))
      | ok virtual => exact .inr ⟨virtual, rfl, .inl ⟨rfl, hpeak⟩⟩

theorem ofStatus?_eq_some_iff : ofStatus? status = .ok (some s) ↔ s.Tells status := by
  cases hrss : figure? "VmRSS:" (Text.lines status.toList) with
  | error h =>
    obtain ⟨-, n, hn, hlarge⟩ := figure?_eq_error_iff.mp hrss
    rw [ofStatus?_of_error hrss]
    refine iff_of_false nofun fun htells => ?_
    rw [figure?_eq_some_iff.mpr htells.rss] at hrss
    cases hrss
  | ok found =>
    cases found with
    | none =>
      rw [ofStatus?_of_none hrss]
      refine iff_of_false nofun fun htells => ?_
      rw [figure?_eq_some_iff.mpr htells.rss] at hrss
      cases hrss
    | some rss =>
      rw [ofStatus?_of_rss hrss, rest_eq_some_iff]
      constructor
      · rintro ⟨rfl, hvirtual, hpeak⟩
        exact ⟨figure?_eq_some_iff.mp hrss, hvirtual, hpeak⟩
      · intro htells
        have hsame := figure?_eq_some_iff.mpr htells.rss
        rw [hrss] at hsame
        cases hsame
        exact ⟨rfl, htells.virtual, htells.peakRss⟩

theorem ofStatus?_eq_none_iff :
    ofStatus? status = .ok none ↔ ∀ n, ¬States "VmRSS:" status n := by
  rw [← figure?_eq_none_iff]
  cases hrss : figure? "VmRSS:" (Text.lines status.toList) with
  | error h =>
    rw [ofStatus?_of_error hrss]
    exact iff_of_false nofun nofun
  | ok found =>
    cases found with
    | none => exact iff_of_true (ofStatus?_of_none hrss) rfl
    | some rss =>
      rw [ofStatus?_of_rss hrss]
      exact iff_of_false (rest_ne_none rss) nofun

/-- The program ends at a large figure, if there is a resident size. -/
theorem ofStatus?_eq_error_iff {h : Halt} :
    ofStatus? status = .error h ↔ h = .overflow .product ∧ (∃ n, States "VmRSS:" status n) ∧
      ∃ key ∈ keys, ∃ n, States key status n ∧ 2 ^ 54 ≤ n := by
  simp only [keys, List.exists_mem_cons_iff, List.not_mem_nil, false_and, exists_false, or_false]
  obtain hnone | ⟨n, hn, hsmall⟩ | ⟨n, hn, hlarge⟩ := states_cases "VmRSS:" status
  · rw [ofStatus?_of_none (figure?_of_none hnone)]
    exact iff_of_false nofun fun ⟨_, ⟨n, hn⟩, _⟩ => hnone n hn
  · obtain ⟨rss, -, hrss⟩ := figure?_of_small hn hsmall
    have hnot : ¬∃ m, States "VmRSS:" status m ∧ 2 ^ 54 ≤ m := by
      rintro ⟨m, hm, hlarge⟩
      rw [hn.unique hm] at hsmall
      exact hlarge.not_gt hsmall
    have hstated : ∃ m, States "VmRSS:" status m := ⟨n, hn⟩
    rw [ofStatus?_of_rss hrss, rest_eq_error_iff, or_iff_right hnot, and_iff_right hstated]
  · rw [ofStatus?_of_error (figure?_of_large hn hlarge), Except.error.injEq, eq_comm]
    exact (and_iff_left ⟨⟨n, hn⟩, .inl ⟨n, hn, hlarge⟩⟩).symm

end Snapshot

/-! ### Differences -/

/-- An integer, or the bound of the signed 64-bit range that is nearest to it. -/
def heldToSigned (n : Int) : Int := max (-2 ^ 63) (min (2 ^ 63 - 1) n)

theorem signed?_of_lt {n : UInt64} (h : n.toNat < 2 ^ 63) :
    ∃ d : Int64, signed? n = some d ∧ d.toInt = n.toNat := by
  refine ⟨n.toInt64, if_pos h, ?_⟩
  show n.toBitVec.toInt = _
  rw [BitVec.toInt_eq_toNat_of_lt (by rw [UInt64.toNat_toBitVec]; omega), UInt64.toNat_toBitVec]

theorem signed?_of_ge {n : UInt64} (h : 2 ^ 63 ≤ n.toNat) : signed? n = none := if_neg h.not_gt

/-- What is not negative can be negated. -/
theorem negation_of_nonneg {d : Int64} (h : 0 ≤ d.toInt) :
    ∃ e : Int64, Checked.negation d = .ok e ∧ e.toInt = -d.toInt := by
  have hne : d ≠ Int64.minValue := by
    rintro rfl
    exact absurd h (by decide)
  refine ⟨-d, if_neg hne, ?_⟩
  have hlt := d.toInt_lt
  rw [Int64.toInt_neg]
  exact Int.bmod_eq_of_le (by omega) (by omega)

theorem difference_of_le {before after : UInt64} (h : before ≤ after) :
    difference before after = .ok ((signed? (after - before)).getD Int64.maxValue) := by
  have hrise : Checked.difference after before = pure (after - before) := if_pos h
  rw [difference, if_pos h, hrise, pure_bind]
  rfl

theorem difference_of_lt {before after : UInt64} (h : after < before) :
    difference before after =
      (signed? (before - after)).elim (.ok Int64.minValue) Checked.negation := by
  have hfall : Checked.difference before after = pure (before - after) :=
    if_pos (UInt64.le_of_lt h)
  rw [difference, if_neg (UInt64.not_le.mpr h), hfall, pure_bind]
  cases signed? (before - after) <;> rfl

/-- **The difference of two words is exact, up to the range of signed words.** None of its steps ends the
program. -/
theorem difference_eq (before after : UInt64) :
    ∃ d, difference before after = .ok d ∧ d.toInt = heldToSigned ((after.toNat : Int) - before.toNat) := by
  unfold heldToSigned
  obtain hle | hlt := le_or_gt before.toNat after.toNat
  · have hrise : (after - before).toNat = after.toNat - before.toNat :=
      UInt64.toNat_sub_of_le _ _ (UInt64.le_iff_toNat_le.mpr hle)
    rw [difference_of_le (UInt64.le_iff_toNat_le.mpr hle)]
    refine ⟨_, rfl, ?_⟩
    obtain hsmall | hlarge := Nat.lt_or_ge (after - before).toNat (2 ^ 63)
    · obtain ⟨d, hd, hvalue⟩ := signed?_of_lt hsmall
      rw [hd, Option.getD_some]
      omega
    · have hmax : Int64.maxValue.toInt = 2 ^ 63 - 1 := by decide
      rw [signed?_of_ge hlarge, Option.getD_none]
      omega
  · have hfall : (before - after).toNat = before.toNat - after.toNat :=
      UInt64.toNat_sub_of_le _ _ (UInt64.le_iff_toNat_le.mpr hlt.le)
    rw [difference_of_lt (UInt64.lt_iff_toNat_lt.mpr hlt)]
    obtain hsmall | hlarge := Nat.lt_or_ge (before - after).toNat (2 ^ 63)
    · obtain ⟨d, hd, hvalue⟩ := signed?_of_lt hsmall
      obtain ⟨e, he, hnegated⟩ := negation_of_nonneg (by rw [hvalue]; exact Int.natCast_nonneg _)
      rw [hd]
      refine ⟨e, he, ?_⟩
      omega
    · have hmin : Int64.minValue.toInt = -2 ^ 63 := by decide
      rw [signed?_of_ge hlarge]
      refine ⟨Int64.minValue, rfl, ?_⟩
      omega

/-- A difference from one snapshot to another, in every field. -/
structure Delta.Spans (d : Delta) (before after : Snapshot) : Prop where
  rss : d.rss.toInt = heldToSigned (after.rss.toNat - before.rss.toNat)
  virtual : d.virtual.toInt = heldToSigned (after.virtual.toNat - before.virtual.toNat)
  peakRss : d.peakRss.toInt = heldToSigned (after.peakRss.toNat - before.peakRss.toNat)

theorem Snapshot.deltaTo_spans (before after : Snapshot) :
    ∃ d, before.deltaTo after = .ok d ∧ d.Spans before after := by
  obtain ⟨rss, hrss, hrss'⟩ := difference_eq before.rss after.rss
  obtain ⟨virtual, hvirtual, hvirtual'⟩ := difference_eq before.virtual after.virtual
  obtain ⟨peakRss, hpeak, hpeak'⟩ := difference_eq before.peakRss after.peakRss
  refine ⟨⟨rss, virtual, peakRss⟩, ?_, hrss', hvirtual', hpeak'⟩
  unfold deltaTo
  rw [hrss, hvirtual, hpeak]
  rfl

namespace Snapshot

/-- **The memory figures**: a snapshot has every figure that its status text states, in bytes, and there is
none exactly if the resident size is not stated; only a figure of 2^54 kibibytes or more ends the program
instead. The difference of two snapshots is exact up to the range of signed words, and never ends it. -/
theorem ofStatus?_tells (status : String) :
    (∀ s, ofStatus? status = .ok (some s) ↔ s.Tells status) ∧
      (ofStatus? status = .ok none ↔ ∀ n, ¬States "VmRSS:" status n) ∧
      (∀ h, ofStatus? status = .error h ↔ h = .overflow .product ∧ (∃ n, States "VmRSS:" status n) ∧
        ∃ key ∈ keys, ∃ n, States key status n ∧ 2 ^ 54 ≤ n) ∧
      ∀ before after : Snapshot, ∃ d, before.deltaTo after = .ok d ∧ d.Spans before after :=
  ⟨fun _ => ofStatus?_eq_some_iff, ofStatus?_eq_none_iff, fun _ => ofStatus?_eq_error_iff, deltaTo_spans⟩

/-- **But there is no snapshot of a text with a large virtual size**, although the resident size is
stated. -/
theorem no_snapshot_of_large_figure :
    States "VmRSS:" "VmRSS:\t1 kB\nVmSize:\t18014398509481985 kB\n" 1 ∧
      ofStatus? "VmRSS:\t1 kB\nVmSize:\t18014398509481985 kB\n" = .error (.overflow .product) := by
  have hfigure : kibibytes? "VmRSS:"
      (Text.lines "VmRSS:\t1 kB\nVmSize:\t18014398509481985 kB\n".toList) = some 1 := by decide +kernel
  exact ⟨kibibytes?_eq_some_iff.mp hfigure, by decide +kernel⟩

end Snapshot

end Stopwatch.Memory
