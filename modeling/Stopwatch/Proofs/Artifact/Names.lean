import Mathlib.Data.List.Nodup
import Stopwatch.Artifact

/-!
# Names of artifacts

The stamp of a moment tells its second: the digits between the separators give its fields back, whatever
the sign and the length of the year. So artifacts of different seconds have different names, and a page
never has the name of a document.

- `DigitsOf`: the digits of a number, with zeros before them;
- `Moment.stamp_eq_iff`: two moments have one stamp if they lie in the same second;
- `Artifact.names_nodup`: the names of artifacts of different seconds.
-/

namespace Stopwatch

/-! ### Numbers -/

/-- Digits that spell a number, maybe with zeros before them. -/
structure DigitsOf (digits : List Char) (n : Nat) : Prop where
  isDigit : ∀ c ∈ digits, c.isDigit = true
  ne_nil : digits ≠ []
  value : Nat.ofDigitChars 10 digits 0 = n

theorem digitsOf_toDigits (n : Nat) : DigitsOf (Nat.toDigits 10 n) n where
  isDigit _ := Nat.isDigit_of_mem_toDigits (by decide) (by decide)
  ne_nil := Nat.toDigits_ne_nil
  value := Nat.ofDigitChars_ten_toDigits

theorem Moment.digitsOf_padded (width n : Nat) : DigitsOf (padded width n).toList n := by
  obtain ⟨hdigits, hne, hvalue⟩ := digitsOf_toDigits n
  unfold padded
  rw [String.toList_ofList]
  refine ⟨List.forall_mem_append.mpr ⟨fun c hc => ?_, hdigits⟩, fun hnil => ?_, ?_⟩
  · rw [List.eq_of_mem_replicate hc]
    rfl
  · exact hne (List.append_eq_nil_iff.mp hnil).2
  · rw [Nat.ofDigitChars_append, Nat.ofDigitChars_replicate_zero, Nat.mul_zero, hvalue]

/-- A number ends where the first other character is. -/
theorem DigitsOf.append_inj {ds ds' rest rest' : List Char} {n n' : Nat} (h : DigitsOf ds n)
    (h' : DigitsOf ds' n') {c : Char} (hc : c.isDigit = false)
    (heq : ds ++ c :: rest = ds' ++ c :: rest') : n = n' ∧ rest = rest' := by
  have hstop : ¬c.isDigit = true := Bool.eq_false_iff.mp hc
  have htake {ds : List Char} (hds : ∀ d ∈ ds, d.isDigit = true) (rest : List Char) :
      (ds ++ c :: rest).takeWhile Char.isDigit = ds := by
    rw [List.takeWhile_append_of_pos hds, List.takeWhile_cons_of_neg hstop, List.append_nil]
  have hdigits : ds = ds' := by
    rw [← htake h.isDigit rest, heq, htake h'.isDigit]
  rw [hdigits] at heq
  obtain ⟨-, hrest⟩ := List.cons.inj (List.append_cancel_left heq)
  exact ⟨h.value.symm.trans ((congrArg (Nat.ofDigitChars 10 · 0) hdigits).trans h'.value), hrest⟩

/-! ### Stamps -/

namespace Moment

/-- The sign before the digits of a year. -/
def yearSign (year : Int) : List Char :=
  if year < 0 then ['-'] else if year ≤ 9999 then [] else ['+']

theorem yearSign_not_digit (year : Int) : ∀ c ∈ yearSign year, ¬c.isDigit = true := by
  unfold yearSign
  split_ifs <;> simp [Char.isDigit]

/-- The text of a year is a sign and its number. -/
theorem exists_yearText_eq (year : Int) :
    ∃ ds, (yearText year).toList = yearSign year ++ ds ∧ DigitsOf ds year.natAbs := by
  unfold yearText yearSign
  split_ifs with hnegative hshort
  · exact ⟨_, String.toList_append, digitsOf_padded 4 year.natAbs⟩
  · have hvalue : year.toNat = year.natAbs := by omega
    rw [hvalue]
    exact ⟨_, rfl, digitsOf_padded 4 year.natAbs⟩
  · have hvalue : year.toNat = year.natAbs := by omega
    refine ⟨_, String.toList_append, ?_⟩
    rw [hvalue, Nat.toString_eq_ofList_toDigits, String.toList_ofList]
    exact digitsOf_toDigits year.natAbs

/-- A year is told by its sign and its number. -/
theorem yearText_append_inj {year year' : Int} {rest rest' : List Char}
    (h : (yearText year).toList ++ '-' :: rest = (yearText year').toList ++ '-' :: rest') :
    year = year' ∧ rest = rest' := by
  obtain ⟨ds, hds, hnumber⟩ := exists_yearText_eq year
  obtain ⟨ds', hds', hnumber'⟩ := exists_yearText_eq year'
  rw [hds, hds', List.append_assoc, List.append_assoc] at h
  -- no sign has a digit, so it is what stands before the first one
  have htake {sign ds : List Char} {n : Nat} (hsign : ∀ c ∈ sign, ¬c.isDigit = true)
      (hds : DigitsOf ds n) (rest : List Char) : (sign ++ (ds ++ rest)).takeWhile (!·.isDigit) = sign := by
    obtain ⟨d, ds, rfl⟩ := List.exists_cons_of_ne_nil hds.ne_nil
    have hd := hds.isDigit d List.mem_cons_self
    rw [List.takeWhile_append_of_pos (by simpa using hsign), List.cons_append,
      List.takeWhile_cons_of_neg (by simp [hd]), List.append_nil]
  have hsign : yearSign year = yearSign year' := by
    rw [← htake (yearSign_not_digit year) hnumber ('-' :: rest), h,
      htake (yearSign_not_digit year') hnumber']
  rw [hsign] at h
  obtain ⟨hvalue, hrest⟩ := hnumber.append_inj hnumber' (by decide) (List.append_cancel_left h)
  refine ⟨?_, hrest⟩
  unfold yearSign at hsign
  split_ifs at hsign
  all_goals first | omega | cases hsign

/-- The moment cut to its second. -/
def toSecond (m : Moment) : Moment := { m with nanosecond := 0 }

theorem toList_stamp (m : Moment) : m.stamp.toList = (yearText m.year).toList ++ '-' ::
    ((padded 2 m.month).toList ++ '-' :: ((padded 2 m.day).toList ++ '_' ::
      ((padded 2 m.hour).toList ++ '-' :: ((padded 2 m.minute).toList ++ '-' ::
        (padded 2 m.second).toList)))) := by
  simp [stamp, String.toList_append]

/-- **A stamp tells the second.** -/
theorem stamp_eq_iff {m m' : Moment} : m.stamp = m'.stamp ↔ m.toSecond = m'.toSecond := by
  constructor
  · intro h
    have hchars := congrArg String.toList h
    rw [toList_stamp, toList_stamp] at hchars
    obtain ⟨hyear, hchars⟩ := yearText_append_inj hchars
    obtain ⟨hmonth, hchars⟩ := (digitsOf_padded 2 m.month).append_inj (digitsOf_padded 2 m'.month)
      (by decide) hchars
    obtain ⟨hday, hchars⟩ := (digitsOf_padded 2 m.day).append_inj (digitsOf_padded 2 m'.day)
      (by decide) hchars
    obtain ⟨hhour, hchars⟩ := (digitsOf_padded 2 m.hour).append_inj (digitsOf_padded 2 m'.hour)
      (by decide) hchars
    obtain ⟨hminute, hchars⟩ := (digitsOf_padded 2 m.minute).append_inj
      (digitsOf_padded 2 m'.minute) (by decide) hchars
    have hsecond : m.second = m'.second := by
      rw [← (digitsOf_padded 2 m.second).value, hchars, (digitsOf_padded 2 m'.second).value]
    unfold toSecond
    rw [hyear, hmonth, hday, hhour, hminute, hsecond]
  · intro h
    obtain ⟨hyear, hmonth, hday, hhour, hminute, hsecond, -⟩ := Moment.mk.inj h
    unfold stamp
    rw [hyear, hmonth, hday, hhour, hminute, hsecond]

/-- There is no slash in a stamp. -/
theorem slash_notMem_stamp (m : Moment) : '/' ∉ m.stamp.toList := by
  have hnumber {ds : List Char} {n : Nat} (h : DigitsOf ds n) : '/' ∉ ds := fun hmem =>
    absurd (h.isDigit '/' hmem) (by decide)
  have hpadded (n : Nat) : '/' ∉ (padded 2 n).toList := hnumber (digitsOf_padded 2 n)
  have hyear : '/' ∉ (yearText m.year).toList := by
    obtain ⟨ds, hds, hdigits⟩ := exists_yearText_eq m.year
    rw [hds, List.mem_append, not_or]
    refine ⟨?_, hnumber hdigits⟩
    unfold yearSign
    split_ifs <;> decide
  rw [toList_stamp]
  simp [hyear, hpadded]

end Moment

/-! ### Names -/

namespace Artifact

theorem reportName_inj {stamp stamp' : String} :
    reportName stamp = reportName stamp' ↔ stamp = stamp' := by
  unfold reportName
  rw [String.append_left_inj, String.append_right_inj]

theorem resultsName_inj {stamp stamp' : String} :
    resultsName stamp = resultsName stamp' ↔ stamp = stamp' := by
  unfold resultsName
  rw [String.append_left_inj, String.append_right_inj]

/-- A page never has the name of a document. -/
theorem reportName_ne_resultsName (stamp stamp' : String) :
    reportName stamp ≠ resultsName stamp' := by
  intro h
  have hchars := congrArg String.toList h
  simp [reportName, resultsName, String.toList_append] at hchars

/-- The names of the two artifacts of a moment. -/
def namesAt (m : Moment) : List String := [reportName m.stamp, resultsName m.stamp]

theorem nodup_namesAt (m : Moment) : (namesAt m).Nodup :=
  List.nodup_cons.mpr ⟨fun h => reportName_ne_resultsName _ _ (List.mem_singleton.mp h),
    List.nodup_singleton _⟩

theorem disjoint_namesAt {m m' : Moment} (h : m.toSecond ≠ m'.toSecond) :
    (namesAt m).Disjoint (namesAt m') := by
  have hstamp : m.stamp ≠ m'.stamp := fun heq => h (Moment.stamp_eq_iff.mp heq)
  simp [namesAt, reportName_inj, resultsName_inj, reportName_ne_resultsName,
    (reportName_ne_resultsName _ _).symm, hstamp.symm]

/-- **Artifacts of different seconds have different names.** -/
theorem names_nodup {ms : List Moment}
    (h : ms.Pairwise fun m m' => m.toSecond ≠ m'.toSecond) : (ms.flatMap namesAt).Nodup :=
  List.nodup_flatMap.mpr ⟨fun m _ => nodup_namesAt m, h.imp disjoint_namesAt⟩

end Artifact

end Stopwatch
