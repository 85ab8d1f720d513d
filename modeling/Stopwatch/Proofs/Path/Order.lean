import Mathlib.Data.List.TakeWhile
import Stopwatch.Proofs.System.Joined

/-!
# Paths below a path and their order

A name that is put behind a path becomes the last component of it, however the path is written. So the
components of what is below a directory are those of the directory and the names on the way.

`Path.compare` is a linear order on lists of components: paths are told apart by it exactly if their
components differ. Paths below one directory stand in the order of the names that lead to them, which are
compared one by one, byte by byte.

- `Path.components_join`: the components of a path with a name behind it;
- `Path.below`: the path that some names lead to;
- `Path.extensionOf?_eq_some_iff`: the extension of a file name;
- `Path.instTransCmpCompare`: the order is total and transitive;
- `Path.compare_eq_eq_iff`: paths that are equal for the order have the same components;
- `Path.byteNames`, `Path.compare_below_eq_lt_iff`: the order of paths below a directory.
-/

namespace Stopwatch.Path

open Std

/-! ### Components -/

/-- Two paths with the same start: what the parts of one have more is what its components have more. -/
theorem components_append_of_parts {path longer : String} {inner : List Component}
    (hroot : isAbsolute longer = isAbsolute path)
    (hhead : (parts longer).head? = some "." ↔ (parts path).head? = some ".")
    (hinner : (parts longer).filterMap component? = (parts path).filterMap component? ++ inner) :
    components longer = components path ++ inner := by
  simp only [components, hroot, hhead, hinner]
  split
  · rfl
  · split <;> rfl

theorem splitSlashes_ne_nil (current cs : List Char) : splitSlashes current cs ≠ [] := by
  induction cs generalizing current with
  | nil => exact List.cons_ne_nil _ _
  | cons c cs ih =>
    rw [splitSlashes]
    split
    · exact List.cons_ne_nil _ _
    · exact ih _

/-- A name goes behind the parts of a path, and takes the place of nothing at their end. -/
theorem exists_parts_join_of_ne {base : String} (hbase : base ≠ "") :
    ∃ first rest idle, parts base = first :: rest ++ idle ∧ idle.filterMap component? = [] ∧
      ∀ n, '/' ∉ n.toList → parts (join base n) = first :: rest ++ [n] := by
  by_cases hslash : base.toList.getLast? = some '/'
  · obtain ⟨cs, hcs⟩ := List.getLast?_eq_some_iff.mp hslash
    have hne : (splitSlashes [] cs).map String.ofList ≠ [] := by
      simpa using splitSlashes_ne_nil [] cs
    obtain ⟨first, rest, hparts⟩ := List.exists_cons_of_ne_nil hne
    refine ⟨first, rest, [""], ?_, rfl, fun n hn => ?_⟩
    · rw [← hparts]
      exact parts_of_append_slash hcs (by decide)
    · rw [← hparts]
      refine parts_of_append_slash ?_ hn
      rw [join, isAbsolute_of_no_slash hn]
      simp [String.toList_append, hcs]
  · have hne : parts base ≠ [] := by
      simpa [parts] using splitSlashes_ne_nil [] base.toList
    obtain ⟨first, rest, hparts⟩ := List.exists_cons_of_ne_nil hne
    refine ⟨first, rest, [], by rw [hparts, List.append_nil], rfl, fun n hn => ?_⟩
    rw [← hparts]
    refine parts_of_append_slash ?_ hn
    rw [join, isAbsolute_of_no_slash hn]
    simp [hbase, hslash, String.toList_append]

theorem IsName.ne_here {n : String} (h : IsName n) : n ≠ "." := by
  rintro rfl
  cases h.component

/-- **A name behind a path is its last component.** -/
theorem components_join {n : String} (hn : IsName n) (base : String) :
    components (join base n) = components base ++ [.name n] := by
  obtain ⟨_, hnames⟩ := exists_parts_join base
  obtain ⟨-, hroot⟩ := hnames n hn.no_slash
  by_cases hbase : base = ""
  · subst hbase
    have hparts : parts (join "" n) = [n] := by
      rw [join, isAbsolute_of_no_slash hn.no_slash]
      simpa using parts_of_no_slash hn.no_slash
    have hempty : parts "" = [""] := rfl
    refine components_append_of_parts hroot ?_ ?_
    · rw [hparts, hempty]
      simp [hn.ne_here]
    · rw [hparts, List.filterMap_cons, hn.component]
      rfl
  · obtain ⟨first, rest, idle, hparts, hidle, hjoin⟩ := exists_parts_join_of_ne hbase
    refine components_append_of_parts hroot ?_ ?_
    · rw [hjoin n hn.no_slash, hparts]
      rfl
    · rw [hjoin n hn.no_slash, hparts, List.filterMap_append, List.filterMap_append, hidle,
        List.append_nil, List.filterMap_cons (l := []), hn.component]
      rfl

/-- The path that some names lead to from a base. -/
def below (base : String) (names : List String) : String := names.foldl join base

theorem components_below {names : List String} (h : ∀ n ∈ names, IsName n) (base : String) :
    components (below base names) = components base ++ names.map .name := by
  induction names generalizing base with
  | nil => exact (List.append_nil _).symm
  | cons n names ih =>
    obtain ⟨hn, hnames⟩ := List.forall_mem_cons.mp h
    rw [below, List.foldl_cons, ← below, ih hnames, components_join hn, List.append_assoc]
    rfl

/-! ### Extensions -/

/-- What is read of a text with a last dot. -/
theorem takeWhile_reverse_append_dot {stem e : List Char} (h : '.' ∉ e) :
    ((stem ++ '.' :: e).reverse.takeWhile (· != '.')).reverse = e := by
  have hchars : ∀ c ∈ e.reverse, (c != '.') = true := by
    intro c hc
    rw [bne_iff_ne]
    rintro rfl
    exact h (List.mem_reverse.mp hc)
  rw [List.reverse_append, List.reverse_cons, List.append_assoc,
    List.takeWhile_append_of_pos hchars, List.singleton_append,
    List.takeWhile_cons_of_neg (by decide), List.append_nil, List.reverse_reverse]

/-- A text has a last dot, or all of it is read. -/
theorem eq_append_dot_or (cs : List Char) :
    (∃ stem e, cs = stem ++ '.' :: e ∧ '.' ∉ e) ∨
      (cs.reverse.takeWhile (· != '.')).reverse = cs := by
  by_cases hdot : '.' ∈ cs.reverse
  · obtain ⟨e, stem, hcs, he⟩ := List.eq_append_cons_of_mem hdot
    refine .inl ⟨stem.reverse, e.reverse, ?_, fun hmem => he (List.mem_reverse.mp hmem)⟩
    rw [← List.reverse_reverse cs, hcs, List.reverse_append, List.reverse_cons, List.append_assoc]
    rfl
  · have hchars : ∀ c ∈ cs.reverse, (c != '.') = true := by
      intro c hc
      rw [bne_iff_ne]
      rintro rfl
      exact hdot hc
    right
    rw [List.takeWhile_eq_self_iff.mpr hchars, List.reverse_reverse]

/-- The extension is what follows the last dot, which is not the first character. -/
theorem extensionOf?_eq_some_iff {n e : String} :
    extensionOf? n = some e ↔
      ∃ stem, stem ≠ [] ∧ n.toList = stem ++ '.' :: e.toList ∧ '.' ∉ e.toList := by
  constructor
  · intro h
    unfold extensionOf? at h
    simp only at h
    obtain ⟨stem, e', hcs, hdot⟩ | hall := eq_append_dot_or n.toList
    · rw [hcs, takeWhile_reverse_append_dot hdot] at h
      split at h
      · cases h
      · rename_i hlong
        obtain rfl := Option.some.inj h
        refine ⟨stem, ?_, by rw [String.toList_ofList, hcs], by rwa [String.toList_ofList]⟩
        rintro rfl
        simp at hlong
    · rw [hall, if_pos (by omega)] at h
      cases h
  · rintro ⟨stem, hne, hcs, hdot⟩
    have hlong : ¬(stem ++ '.' :: e.toList).length - e.toList.length ≤ 1 := by
      have hpos := List.length_pos_iff.mpr hne
      rw [List.length_append, List.length_cons]
      omega
    unfold extensionOf?
    simp only
    rw [hcs, takeWhile_reverse_append_dot hdot, if_neg hlong, String.ofList_toList]

/-- The extension of a path is that of its last name. -/
theorem extension?_below {names : List String} (h : ∀ n ∈ names, IsName n) {last : String}
    (hlast : names.getLast? = some last) (base : String) :
    extension? (below base names) = extensionOf? last := by
  have hcomponents : (components (below base names)).getLast? = some (.name last) := by
    rw [components_below h, List.getLast?_append, List.getLast?_map, hlast]
    rfl
  rw [extension?, fileName?, hcomponents]
  rfl

/-! ### Bytes of names -/

theorem byteList_loop_eq (bytes : ByteArray) (i : Nat) (seen : List UInt8) :
    ByteArray.toList.loop bytes i seen = seen.reverse ++ bytes.data.toList.drop i := by
  fun_induction ByteArray.toList.loop bytes i seen with
  | case1 i seen h ih =>
    have hi : i < bytes.data.toList.length := by simpa using h
    rw [ih, List.drop_eq_getElem_cons hi]
    simp [ByteArray.get!, h]
  | case2 i seen h =>
    rw [List.drop_eq_nil_of_le (by simpa using Nat.le_of_not_lt h), List.append_nil]

theorem toUTF8_toList_inj {s t : String} (h : s.toUTF8.toList = t.toUTF8.toList) : s = t := by
  have hdata {bytes : ByteArray} : bytes.toList = bytes.data.toList :=
    (byteList_loop_eq bytes 0 []).trans rfl
  rw [hdata, hdata, Array.toList_inj] at h
  exact String.toByteArray_inj.mp (ByteArray.ext h)

/-! ### The order of components -/

theorem Component.compare_eq :
    Component.compare = compareLex (compareOn (·.rank.1)) (compareOn (·.rank.2)) := rfl

instance : TransCmp Component.compare := Component.compare_eq ▸ inferInstance

theorem Component.rank_inj {a b : Component} (h : a.rank = b.rank) : a = b := by
  -- only names have bytes to compare
  cases a <;> cases b <;> simp_all [rank]
  exact toUTF8_toList_inj h

instance : LawfulEqCmp Component.compare where
  eq_of_compare {a b} h := by
    rw [Component.compare, Ordering.then_eq_eq, Std.compare_eq_iff_eq, Std.compare_eq_iff_eq] at h
    exact Component.rank_inj (Prod.ext h.1 h.2)

theorem compareComponents_eq : compareComponents = List.compareLex Component.compare := by
  funext as bs
  induction as generalizing bs with
  | nil => cases bs <;> rfl
  | cons a as ih =>
    cases bs with
    | nil => rfl
    | cons b bs => rw [compareComponents, ih, List.compareLex_cons_cons]

/-! ### The order of paths -/

theorem compare_eq : compare = fun a b =>
    List.compareLex Component.compare (components a) (components b) := by
  rw [← compareComponents_eq]
  rfl

/-- The order of paths is total and transitive. -/
instance instTransCmpCompare : TransCmp compare where
  eq_swap {a b} := by
    rw [compare_eq]
    exact OrientedCmp.eq_swap
  isLE_trans {a b c} := by
    rw [compare_eq]
    exact TransCmp.isLE_trans

/-- Only paths with the same components are equal for the order. -/
theorem compare_eq_eq_iff {a b : String} :
    compare a b = .eq ↔ components a = components b := by
  rw [compare_eq]
  exact LawfulEqCmp.compare_eq_iff_eq

/-! ### Names below a directory -/

/-- The bytes of each name. -/
def byteNames (names : List String) : List (List UInt8) := names.map (·.toUTF8.toList)

/-- Lists compare as the lexicographic order has it. -/
theorem compareLex_eq_lt_iff {α : Type} [LT α] {cmp : α → α → Ordering} [LawfulEqCmp cmp]
    (hlt : ∀ {a b}, cmp a b = .lt ↔ a < b) {as bs : List α} :
    List.compareLex cmp as bs = .lt ↔ as < bs := by
  induction as generalizing bs with
  | nil => cases bs <;> simp [List.compareLex]
  | cons a as ih =>
    cases bs with
    | nil => simp [List.compareLex]
    | cons b bs =>
      rw [List.compareLex_cons_cons, Ordering.then_eq_lt, hlt, LawfulEqCmp.compare_eq_iff_eq, ih,
        List.cons_lt_cons_iff]

theorem compareComponents_names (names others : List String) :
    compareComponents (names.map .name) (others.map .name) =
      List.compareLex (List.compareLex Ord.compare) (byteNames names) (byteNames others) := by
  induction names generalizing others with
  | nil => cases others <;> rfl
  | cons n names ih =>
    cases others with
    | nil => rfl
    | cons o others =>
      simp only [List.map_cons, compareComponents, byteNames, List.compareLex_cons_cons, ih]
      rfl

/-- What two lists begin with has no part in their order. -/
theorem compareComponents_append (start as bs : List Component) :
    compareComponents (start ++ as) (start ++ bs) = compareComponents as bs := by
  induction start with
  | nil => rfl
  | cons c start ih =>
    rw [List.cons_append, List.cons_append, compareComponents, ih,
      (ReflCmp.compare_self : c.compare c = .eq)]
    rfl

/-- **Paths below a directory stand in the order of their names**, one by one and byte by byte. -/
theorem compare_below_eq_lt_iff {names others : List String} (hnames : ∀ n ∈ names, IsName n)
    (hothers : ∀ n ∈ others, IsName n) (base : String) :
    compare (below base names) (below base others) = .lt ↔
      byteNames names < byteNames others := by
  rw [compare, components_below hnames, components_below hothers, compareComponents_append,
    compareComponents_names]
  exact compareLex_eq_lt_iff (compareLex_eq_lt_iff Std.compare_eq_lt)

/-- Other names lead to another path. -/
theorem below_inj {names others : List String} (hnames : ∀ n ∈ names, IsName n)
    (hothers : ∀ n ∈ others, IsName n) {base : String}
    (h : components (below base names) = components (below base others)) : names = others := by
  rw [components_below hnames, components_below hothers] at h
  exact (List.map_inj_right fun _ _ => Component.name.inj).mp (List.append_cancel_left h)

end Stopwatch.Path
