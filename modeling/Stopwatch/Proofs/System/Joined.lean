import Stopwatch.Proofs.System.Changes

/-!
# Paths into a directory

A path that ends in a plain name is followed as far as the directory before it, and then to the entry of
that name. So all names that are put behind one path are looked up in the same directory, which is where
that path leads with a dot behind it.

- `Path.IsName`: a text that stands for a name;
- `Path.exists_parts_join`: the parts of a path with a name behind it;
- `Disk.followLinks_append`: the way to the last name;
- `Disk.LeadsInto`: the directory that a path leads to;
- `Disk.exists_way_join`, `Disk.find?_join`: where a name behind a path leads.
-/

namespace Stopwatch

/-! ### Names behind a path -/

namespace Path

/-- A text that stands for a name: neither empty nor dots, and without a slash. -/
structure IsName (n : String) : Prop where
  component : component? n = some (.name n)
  no_slash : '/' ∉ n.toList

/-- A text without a slash is a name if it begins with anything but a dot. -/
theorem isName_of_toList {n : String} {c : Char} {cs : List Char} (h : n.toList = c :: cs)
    (hc : c ≠ '.') (hslash : '/' ∉ n.toList) : IsName n := by
  have hne {t : String} (ht : t.toList = [] ∨ t.toList.head? = some '.') : n ≠ t := by
    rintro rfl
    rw [h] at ht
    obtain hnil | hdot := ht
    · cases hnil
    · exact hc (Option.some.inj hdot)
  have hidle : ¬(decide (n = "") || decide (n = ".")) = true := by
    simp [hne (t := "") (.inl rfl), hne (t := ".") (.inr rfl)]
  refine ⟨?_, hslash⟩
  rw [component?, if_neg hidle, if_neg (hne (.inr rfl))]

theorem IsName.ne_empty {n : String} (h : IsName n) : n ≠ "" := by
  rintro rfl
  cases h.component

theorem isAbsolute_of_no_slash {n : String} (h : '/' ∉ n.toList) : isAbsolute n = false := by
  unfold isAbsolute
  cases hchars : n.toList with
  | nil => rfl
  | cons c cs =>
    rw [hchars, List.mem_cons, not_or] at h
    simpa using Ne.symm h.1

theorem splitSlashes_of_no_slash {cs : List Char} (h : '/' ∉ cs) (current : List Char) :
    splitSlashes current cs = [current.reverse ++ cs] := by
  induction cs generalizing current with
  | nil => rw [splitSlashes, List.append_nil]
  | cons c cs ih =>
    rw [List.mem_cons, not_or] at h
    rw [splitSlashes, if_neg (Ne.symm h.1), ih h.2]
    simp

theorem splitSlashes_append_slash (current cs ds : List Char) :
    splitSlashes current (cs ++ '/' :: ds) = splitSlashes current cs ++ splitSlashes [] ds := by
  induction cs generalizing current with
  | nil => rfl
  | cons c cs ih =>
    rw [List.cons_append, splitSlashes, splitSlashes]
    split
    · rw [ih, List.cons_append]
    · rw [ih]

theorem parts_of_no_slash {n : String} (h : '/' ∉ n.toList) : parts n = [n] := by
  rw [parts, splitSlashes_of_no_slash h, List.map_singleton, List.reverse_nil, List.nil_append,
    String.ofList_toList]

theorem parts_of_append_slash {path n : String} {cs : List Char}
    (h : path.toList = cs ++ '/' :: n.toList) (hn : '/' ∉ n.toList) :
    parts path = (splitSlashes [] cs).map String.ofList ++ [n] := by
  rw [parts, h, splitSlashes_append_slash, splitSlashes_of_no_slash hn, List.map_append,
    List.map_singleton, List.reverse_nil, List.nil_append, String.ofList_toList]

/-- The parts of a path with a name behind it end with the name, and begin with the same parts
whatever the name is. -/
theorem exists_parts_join (base : String) :
    ∃ names, ∀ n, '/' ∉ n.toList →
      parts (join base n) = names ++ [n] ∧ isAbsolute (join base n) = isAbsolute base := by
  by_cases hempty : base = ""
  · subst hempty
    refine ⟨[], fun n hn => ?_⟩
    have hjoin : join "" n = n := by
      rw [join, isAbsolute_of_no_slash hn]
      simp
    rw [hjoin]
    exact ⟨parts_of_no_slash hn, isAbsolute_of_no_slash hn⟩
  by_cases hslash : base.toList.getLast? = some '/'
  · obtain ⟨cs, hcs⟩ := List.getLast?_eq_some_iff.mp hslash
    refine ⟨(splitSlashes [] cs).map String.ofList, fun n hn => ?_⟩
    have hjoin : (join base n).toList = cs ++ '/' :: n.toList := by
      rw [join, isAbsolute_of_no_slash hn]
      simp [String.toList_append, hcs]
    refine ⟨parts_of_append_slash hjoin hn, ?_⟩
    rw [isAbsolute, isAbsolute, hjoin, hcs]
    cases cs <;> rfl
  · refine ⟨(splitSlashes [] base.toList).map String.ofList, fun n hn => ?_⟩
    have hjoin : (join base n).toList = base.toList ++ '/' :: n.toList := by
      rw [join, isAbsolute_of_no_slash hn]
      simp [hempty, hslash, String.toList_append]
    refine ⟨parts_of_append_slash hjoin hn, ?_⟩
    have hne : base.toList ≠ [] := fun hnil => hempty (String.toList_eq_nil_iff.mp hnil)
    obtain ⟨c, cs, hcs⟩ := List.exists_cons_of_ne_nil hne
    rw [isAbsolute, isAbsolute, hjoin, hcs]
    rfl

/-- A name adds its own length to the path before it. -/
theorem exists_size_join (base : String) :
    ∃ size, ∀ n, '/' ∉ n.toList → (join base n).utf8ByteSize = size + n.utf8ByteSize := by
  by_cases hidle : base = "" ∨ base.toList.getLast? = some '/'
  · refine ⟨base.utf8ByteSize, fun n hn => ?_⟩
    rw [join, isAbsolute_of_no_slash hn, if_neg Bool.false_ne_true, if_pos (by simpa using hidle),
      String.utf8ByteSize_append]
  · refine ⟨(base ++ "/").utf8ByteSize, fun n hn => ?_⟩
    rw [join, isAbsolute_of_no_slash hn, if_neg Bool.false_ne_true, if_neg (by simpa using hidle),
      String.utf8ByteSize_append]

end Path

namespace System.Disk

/-! ### The way to the last name -/

section
variable {disk : Disk} {location : Location} {last : String} {target : Target}

/-- The names before the last one lead to a directory, in which the last one is looked up. -/
theorem followNames_append {onLink : Location → String → List String → Except SystemError Target}
    {P : Location → Prop} (hne : last ≠ "")
    (hlast : ∀ l, followNames disk .visit onLink l [last] = .ok target → P l)
    (hlinks : ∀ l text rest, onLink l text (rest ++ [last]) = .ok target →
      ∃ l', onLink l text rest = .ok (.found l' .directory) ∧ P l')
    {names : List String} {here : Location}
    (h : followNames disk .visit onLink here (names ++ [last]) = .ok target) :
    ∃ l, followNames disk .visit onLink here names = .ok (.found l .directory) ∧ P l := by
  -- a link goes on with other names, so the claim about it is left to `onLink`
  induction names generalizing here with
  | nil => exact ⟨here, rfl, hlast here h⟩
  | cons name rest ih =>
    cases followNames_cons_iff.mp h with
    | idle hidle hrest =>
      obtain ⟨l, hl, hp⟩ := ih hrest
      exact ⟨l, followNames_cons_iff.mpr (.idle hidle hl), hp⟩
    | up hup hrest =>
      obtain ⟨l, hl, hp⟩ := ih hrest
      exact ⟨l, followNames_cons_iff.mpr (.up hup hl), hp⟩
    | missing _ _ _ hend _ => simp [hne] at hend
    | enter hproper _ hget hrest =>
      obtain ⟨l, hl, hp⟩ := ih hrest
      exact ⟨l, followNames_cons_iff.mpr (.enter hproper nofun hget hl), hp⟩
    | link hproper _ hget _ hrest =>
      obtain ⟨l, hl, hp⟩ := hlinks _ _ _ hrest
      exact ⟨l, followNames_cons_iff.mpr (.link hproper nofun hget nofun hl), hp⟩
    | name _ hpurpose => cases hpurpose
    | arrive _ _ _ hend _ => simp at hend

theorem followLinks_append (hne : last ≠ "") {links : Nat} {names : List String} {here : Location}
    (h : followLinks disk .visit links here (names ++ [last]) = .ok target) :
    ∃ l, followLinks disk .visit links here names = .ok (.found l .directory) ∧
      ∃ onLink, followNames disk .visit onLink l [last] = .ok target := by
  induction links generalizing here names with
  | zero =>
    exact followNames_append hne (fun l hlast => ⟨_, hlast⟩) (fun _ _ _ hlink => by cases hlink) h
  | succ links ih =>
    refine followNames_append hne (fun l hlast => ⟨_, hlast⟩) (fun l text rest hlink => ?_) h
    rw [← List.append_assoc] at hlink
    exact ih hlink

/-- A dot behind a directory changes nothing. -/
theorem followNames_dot {onLink : Location → String → List String → Except SystemError Target}
    (hlinks : ∀ l text rest, onLink l text rest = .ok (.found location .directory) →
      onLink l text (rest ++ ["."]) = .ok (.found location .directory))
    {names : List String} {here : Location}
    (h : followNames disk .visit onLink here names = .ok (.found location .directory)) :
    followNames disk .visit onLink here (names ++ ["."]) = .ok (.found location .directory) := by
  induction names generalizing here with
  | nil => exact followNames_cons_iff.mpr (.idle (.inr rfl) h)
  | cons name rest ih =>
    refine followNames_cons_iff.mpr ?_
    cases followNames_cons_iff.mp h with
    | idle hidle hrest => exact .idle hidle (ih hrest)
    | up hup hrest => exact .up hup (ih hrest)
    | missing _ _ _ _ htarget => cases htarget
    | enter hproper _ hget hrest => exact .enter hproper nofun hget (ih hrest)
    | link hproper _ hget _ hrest => exact .link hproper nofun hget nofun (hlinks _ _ _ hrest)
    | name _ hpurpose => cases hpurpose
    | arrive _ _ hfinal _ htarget =>
      cases htarget
      exact absurd rfl hfinal.1

theorem followLinks_dot {links : Nat} {names : List String} {here : Location}
    (h : followLinks disk .visit links here names = .ok (.found location .directory)) :
    followLinks disk .visit links here (names ++ ["."]) = .ok (.found location .directory) := by
  induction links generalizing here names with
  | zero => exact followNames_dot (fun _ _ _ hlink => by cases hlink) h
  | succ links ih =>
    refine followNames_dot (fun l text rest hlink => ?_) h
    rw [← List.append_assoc]
    exact ih hlink

end

/-! ### Where a name behind a path leads -/

section
variable {disk : Disk} {origin location : Location} {base n : String}

/-- A path leads to a directory; it may be empty, which means the place where it starts. -/
def LeadsInto (disk : Disk) (origin : Location) (base : String) (location : Location) : Prop :=
  disk.follow origin (Path.join base ".") .visit = .ok (.found location .directory)

theorem followLinks_of_follow {path : String} {purpose : Purpose} {target : Target}
    (h : disk.follow origin path purpose = .ok target) :
    path.utf8ByteSize ≤ longestPath ∧ followLinks disk purpose mostLinks
      (if Path.isAbsolute path then [] else origin) (Path.parts path) = .ok target := by
  unfold follow at h
  split at h
  · cases h
  split at h
  · cases h
  rename_i hlong
  exact ⟨Nat.not_lt.mp hlong, h⟩

/-- The way along a name behind a path: to a directory, where the name is looked up. -/
theorem exists_way_join (hne : n ≠ "") (hslash : '/' ∉ n.toList) {target : Target}
    (h : disk.follow origin (Path.join base n) .visit = .ok target) :
    ∃ l, disk.LeadsInto origin base l ∧
      ∃ onLink, followNames disk .visit onLink l [n] = .ok target := by
  obtain ⟨names, hnames⟩ := Path.exists_parts_join base
  obtain ⟨size, hsize⟩ := Path.exists_size_join base
  obtain ⟨hparts, hroot⟩ := hnames n hslash
  obtain ⟨hdotParts, hdotRoot⟩ := hnames "." (by decide)
  obtain ⟨hlong, hway⟩ := followLinks_of_follow h
  rw [hparts, hroot] at hway
  obtain ⟨l, hbase, hlast⟩ := followLinks_append hne hway
  have hdotSize : (Path.join base ".").utf8ByteSize = size + 1 := hsize "." (by decide)
  have hpositive : 0 < n.utf8ByteSize :=
    Nat.pos_of_ne_zero fun hzero => hne (String.utf8ByteSize_eq_zero_iff.mp hzero)
  have hnonempty : Path.join base "." ≠ "" := fun hempty => by
    rw [hempty, String.utf8ByteSize_empty] at hdotSize
    omega
  have hshort : ¬longestPath < (Path.join base ".").utf8ByteSize := by
    have hsize' := hsize n hslash
    omega
  refine ⟨l, ?_, hlast⟩
  rw [LeadsInto, follow, if_neg hnonempty, if_neg hshort, hdotParts, hdotRoot]
  exact followLinks_dot hbase

/-- A name is looked up in the directory where the path before it leads. -/
theorem find?_join (hn : Path.IsName n) (hbase : disk.LeadsInto origin base location)
    (hlink : ∀ text, disk.get? (n :: location) ≠ some (.link text)) {l : Location} {node : Node}
    (h : disk.find? origin (Path.join base n) = some (l, node)) :
    l = n :: location ∧ disk.get? l = some node := by
  obtain ⟨l', hbase', onLink, hlast⟩ := exists_way_join hn.ne_empty hn.no_slash (follow_of_find? h)
  -- both ways lead to the same directory
  cases hbase.symm.trans hbase'
  cases followNames_cons_iff.mp hlast with
  | idle hidle _ =>
    obtain rfl | rfl := hidle <;> cases hn.component
  | up hup _ =>
    subst hup
    cases hn.component
  | missing _ _ _ _ htarget => cases htarget
  | enter _ _ hget hrest =>
    cases hrest
    exact ⟨rfl, hget⟩
  | link _ _ hget _ _ => exact absurd hget (hlink _)
  | name _ hpurpose => cases hpurpose
  | arrive _ hget _ _ htarget =>
    cases htarget
    exact ⟨rfl, hget⟩

end

end System.Disk

end Stopwatch
