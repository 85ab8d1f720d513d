import Mathlib.Data.List.Nodup
import Stopwatch.Proofs.Host.Alike
import Stopwatch.Proofs.Path.Order
import Stopwatch.System.World

/-!
# Finding workload files in a tree

A tree of directories and regular files has its entries in some order, and whatever lists the files below
it may have them in any other. What is found depends on the files only: those with a fitting ending, each
once, in the order of paths.

- `Discovery.Tree`: a directory with all that is below it;
- `Discovery.Tree.entries`, `Discovery.Tree.files`: all that a walk through it comes across, and the names
  that lead to its regular files;
- `Discovery.EndsInOneOf`: the file names that are looked for;
- `Discovery.select_perm`: the order of a listing has no part in what is selected;
- `Discovery.discover_tree`: what is found below a directory.
-/

namespace Stopwatch.Discovery

/-! ### Trees -/

/-- The entries of a directory in the order in which they are listed: regular files, and directories with
entries of their own. -/
inductive Tree where
  | empty
  | file (name : String) (rest : Tree)
  | directory (name : String) (inside rest : Tree)
deriving DecidableEq, Repr

namespace Tree

/-- The names of the entries. -/
def names : Tree → List String
  | empty => []
  | file name rest => name :: rest.names
  | directory name _ rest => name :: rest.names

/-- The names that lead to the regular files at any depth. -/
def files : Tree → List (List String)
  | empty => []
  | file name rest => [name] :: rest.files
  | directory name inside rest => inside.files.map (name :: ·) ++ rest.files

/-- The names that lead to what is below the directory at any depth, with its kind. -/
def nodes : Tree → List (List String × EntryKind)
  | empty => []
  | file name rest => ([name], .file) :: rest.nodes
  | directory name inside rest =>
    ([name], .directory) :: (inside.nodes.map fun (way, kind) => (name :: way, kind)) ++ rest.nodes

/-- The directory itself and all that is below it. -/
def entries (tree : Tree) (directory : String) : List Entry :=
  ⟨directory, .directory⟩ :: tree.nodes.map fun (way, kind) => ⟨Path.below directory way, kind⟩

/-- Entries are named by names, and those of one directory by different ones. -/
inductive Proper : Tree → Prop
  | empty : Proper empty
  | file {name : String} {rest : Tree} (isName : Path.IsName name) (fresh : name ∉ rest.names)
      (properRest : rest.Proper) : Proper (file name rest)
  | directory {name : String} {inside rest : Tree} (isName : Path.IsName name)
      (fresh : name ∉ rest.names) (properInside : inside.Proper) (properRest : rest.Proper) :
      Proper (directory name inside rest)

variable {tree : Tree}

theorem files_eq (tree : Tree) :
    (tree.nodes.filter fun (_, kind) => kind = .file).map Prod.fst = tree.files := by
  induction tree with
  | empty => rfl
  | file name rest ih => simp [nodes, files, ih]
  | directory name inside rest ihInside ih =>
    simp [nodes, files, ih, ← ihInside, List.filter_map, Function.comp_def]

/-- The regular files among all that a walk comes across are those of the tree. -/
theorem filter_entries (tree : Tree) (directory : String) :
    ((tree.entries directory).filter isRegular).map Entry.path =
      tree.files.map (Path.below directory) := by
  rw [← files_eq, entries, List.filter_cons_of_neg (by simp [isRegular]), List.filter_map, List.map_map,
    List.map_map]
  rfl

/-- The way to a file begins with an entry. -/
theorem exists_head_of_mem_files {way : List String} (h : way ∈ tree.files) :
    ∃ name more, way = name :: more ∧ name ∈ tree.names := by
  induction tree generalizing way with
  | empty => cases h
  | file name rest ih =>
    obtain rfl | hrest := List.mem_cons.mp h
    · exact ⟨name, [], rfl, List.mem_cons_self⟩
    · obtain ⟨first, more, rfl, hfirst⟩ := ih hrest
      exact ⟨first, more, rfl, List.mem_cons_of_mem _ hfirst⟩
  | directory name inside rest _ ih =>
    obtain hinside | hrest := List.mem_append.mp h
    · obtain ⟨more, -, rfl⟩ := List.mem_map.mp hinside
      exact ⟨name, more, rfl, List.mem_cons_self⟩
    · obtain ⟨first, more, rfl, hfirst⟩ := ih hrest
      exact ⟨first, more, rfl, List.mem_cons_of_mem _ hfirst⟩

/-- No way to a file below the other entries begins with a fresh name. -/
theorem cons_notMem_files {name : String} (h : name ∉ tree.names) (more : List String) :
    name :: more ∉ tree.files := by
  intro hmem
  obtain ⟨first, more', heq, hfirst⟩ := exists_head_of_mem_files hmem
  cases heq
  exact h hfirst

/-- Every way to a file is made of names. -/
theorem Proper.isName (h : tree.Proper) :
    ∀ way ∈ tree.files, ∀ name ∈ way, Path.IsName name := by
  induction h with
  | empty => nofun
  | file hname _ _ ih =>
    refine List.forall_mem_cons.mpr ⟨?_, ih⟩
    exact List.forall_mem_singleton.mpr hname
  | directory hname _ _ _ ihInside ih =>
    refine List.forall_mem_append.mpr ⟨?_, ih⟩
    refine List.forall_mem_map.mpr fun way hway => ?_
    exact List.forall_mem_cons.mpr ⟨hname, ihInside way hway⟩

/-- No two ways lead to one file. -/
theorem Proper.nodup_files (h : tree.Proper) : tree.files.Nodup := by
  induction h with
  | empty => exact List.nodup_nil
  | file _ hfresh _ ih => exact List.nodup_cons.mpr ⟨cons_notMem_files hfresh [], ih⟩
  | directory _ hfresh _ _ ihInside ih =>
    refine List.nodup_append.mpr ⟨ihInside.map List.cons_injective, ih, ?_⟩
    rintro way hway _ hrest rfl
    obtain ⟨more, -, rfl⟩ := List.mem_map.mp hway
    exact cons_notMem_files hfresh more hrest

end Tree

/-! ### Endings -/

/-- What follows the last dot of a file name, which is not its first character, is one of some extensions
up to the case of ASCII letters. -/
def EndsInOneOf (extensions : List String) (name : String) : Prop :=
  ∃ stem ending, stem ≠ [] ∧ name.toList = stem ++ '.' :: ending ∧ '.' ∉ ending ∧
    ∃ e ∈ extensions, e.toList.map Char.toLower = ending.map Char.toLower

theorem sameIgnoringCase_iff {a b : String} :
    sameIgnoringCase a b = true ↔ a.toList.map Char.toLower = b.toList.map Char.toLower := beq_iff_eq

theorem any_extensionOf?_iff {extensions : List String} {name : String} :
    ((Path.extensionOf? name).any fun e => extensions.any (sameIgnoringCase e)) = true ↔
      EndsInOneOf extensions name := by
  rw [Option.any_eq_true]
  constructor
  · rintro ⟨ending, hending, hany⟩
    obtain ⟨stem, hne, hname, hdot⟩ := Path.extensionOf?_eq_some_iff.mp hending
    obtain ⟨e, he, hsame⟩ := List.any_eq_true.mp hany
    exact ⟨stem, ending.toList, hne, hname, hdot, e, he, (sameIgnoringCase_iff.mp hsame).symm⟩
  · rintro ⟨stem, ending, hne, hname, hdot, e, he, hsame⟩
    rw [← String.toList_ofList (l := ending)] at hname hdot hsame
    refine ⟨String.ofList ending, Path.extensionOf?_eq_some_iff.mpr ⟨stem, hne, hname, hdot⟩, ?_⟩
    exact List.any_eq_true.mpr ⟨e, he, sameIgnoringCase_iff.mpr hsame.symm⟩

/-- Whether a path is selected depends on its last name. -/
theorem hasExtension_below {extensions names : List String} (h : ∀ n ∈ names, Path.IsName n)
    {last : String} (hlast : names.getLast? = some last) (base : String) :
    hasExtension extensions (Path.below base names) = true ↔ EndsInOneOf extensions last := by
  rw [hasExtension, Path.extension?_below h hlast]
  exact any_extensionOf?_iff

/-! ### Selecting -/

/-- Whether a path comes before another one, or at the same place. -/
abbrev notAfter (a b : String) : Bool := Path.compare a b != .gt

theorem notAfter_iff {a b : String} : notAfter a b = true ↔ (Path.compare a b).isLE = true := by
  rw [notAfter, bne_iff_ne]
  cases Path.compare a b <;> decide

theorem pairwise_select (extensions paths : List String) :
    (select extensions paths).Pairwise fun a b => notAfter a b = true := by
  refine List.pairwise_mergeSort (fun a b c hab hbc => ?_) (fun a b => ?_) _
  · exact notAfter_iff.mpr (Std.TransCmp.isLE_trans (notAfter_iff.mp hab) (notAfter_iff.mp hbc))
  · have hswap : Path.compare a b = (Path.compare b a).swap := Std.OrientedCmp.eq_swap
    rw [Bool.or_eq_true, notAfter_iff, notAfter_iff, hswap]
    cases Path.compare b a <;> decide

theorem mem_select {extensions paths : List String} {path : String} :
    path ∈ select extensions paths ↔ path ∈ paths ∧ hasExtension extensions path = true := by
  rw [select, List.mem_mergeSort, List.mem_filter]

/-- **The order of a listing has no part in what is selected**, if its paths have different components. -/
theorem select_perm {paths paths' : List String} (extensions : List String)
    (hdistinct : ∀ a ∈ paths, ∀ b ∈ paths, Path.components a = Path.components b → a = b)
    (h : paths.Perm paths') : select extensions paths = select extensions paths' := by
  refine List.Perm.eq_of_pairwise (fun a b ha hb hab hba => ?_) (pairwise_select extensions paths)
    (pairwise_select extensions paths') ?_
  · have hequal := Std.OrientedCmp.isLE_antisymm (notAfter_iff.mp hab) (notAfter_iff.mp hba)
    exact hdistinct a (mem_select.mp ha).1 b (h.mem_iff.mpr (mem_select.mp hb).1)
      (Path.compare_eq_eq_iff.mp hequal)
  · exact (List.mergeSort_perm _ _).trans ((h.filter _).trans (List.mergeSort_perm _ _).symm)

theorem discover_of_listing {σ : Type} {host : Host (StateM σ)} {directory : String}
    {listing : List (Except IoError Entry)} {s s₁ s₂ : σ}
    (hdirectory : host.isDirectory directory s = (true, s₁))
    (hlisting : host.walk directory s₁ = (listing, s₂)) (extensions : List String) :
    discover host directory extensions s = (.ok (select extensions (regularFiles listing)), s₂) := by
  unfold discover
  rw [run_bind_of_eq hdirectory, if_pos rfl, run_bind_of_eq hlisting]
  rfl

/-! ### What is found -/

/-- The ways to the files that are looked for, in the order of their paths. -/
def Tree.chosen (tree : Tree) (directory : String) (extensions : List String) :
    List (List String) :=
  (tree.files.filter (hasExtension extensions ∘ Path.below directory)).mergeSort fun a b =>
    notAfter (Path.below directory a) (Path.below directory b)

namespace Tree

variable {tree : Tree}

theorem select_files (tree : Tree) (directory : String) (extensions : List String) :
    select extensions (tree.files.map (Path.below directory)) =
      (tree.chosen directory extensions).map (Path.below directory) := by
  rw [select, List.filter_map, chosen]
  exact (List.map_mergeSort (f := Path.below directory) fun _ _ _ _ => rfl).symm

theorem mem_chosen {way : List String} (h : tree.Proper) (directory : String)
    (extensions : List String) :
    way ∈ tree.chosen directory extensions ↔
      way ∈ tree.files ∧ ∃ last, way.getLast? = some last ∧ EndsInOneOf extensions last := by
  rw [chosen, List.mem_mergeSort, List.mem_filter]
  refine and_congr_right fun hway => ?_
  obtain ⟨first, more, hne, -⟩ := exists_head_of_mem_files hway
  obtain ⟨last, hlast⟩ := Option.isSome_iff_exists.mp
    (List.getLast?_isSome.mpr (hne ▸ List.cons_ne_nil first more))
  rw [Function.comp_apply, hasExtension_below (h.isName way hway) hlast]
  constructor
  · exact fun hends => ⟨last, hlast, hends⟩
  · rintro ⟨last', hlast', hends⟩
    rwa [Option.some.inj (hlast.symm.trans hlast')]

theorem nodup_chosen (h : tree.Proper) (directory : String) (extensions : List String) :
    (tree.chosen directory extensions).Nodup :=
  (List.mergeSort_perm _ _).nodup_iff.mpr (h.nodup_files.filter _)

/-- The ways to the files that are looked for stand in the strict order of their paths. -/
theorem pairwise_chosen (h : tree.Proper) (directory : String) (extensions : List String) :
    (tree.chosen directory extensions).Pairwise fun a b =>
      Path.compare (Path.below directory a) (Path.below directory b) = .lt := by
  have hsorted := pairwise_select extensions (tree.files.map (Path.below directory))
  rw [select_files, List.pairwise_map] at hsorted
  refine (hsorted.and (nodup_chosen h directory extensions)).imp_of_mem ?_
  rintro a b ha hb ⟨hle, hne⟩
  have hnames {way : List String} (hway : way ∈ tree.chosen directory extensions) :=
    h.isName way ((mem_chosen h directory extensions).mp hway).1
  -- different names make different components, so the order does not take the two for equal
  have hdiffer : Path.compare (Path.below directory a) (Path.below directory b) ≠ .eq := fun heq =>
    hne (Path.below_inj (hnames ha) (hnames hb) (Path.compare_eq_eq_iff.mp heq))
  obtain heq | hlt := Ordering.isLE_iff_eq_lt_or_eq_eq.mp (notAfter_iff.mp hle)
  · exact heq
  · exact absurd hlt hdiffer

end Tree

/-- **What is found below a directory depends on its files only**: the paths of those with one of the
given extensions, each once and in the order of paths, whatever the order is in which a walk comes across
the directory and all that is below it, and whatever errors it meets besides. -/
theorem discover_tree {tree : Tree} (h : tree.Proper) (directory : String)
    (extensions : List String) :
    ∃ chosen : List (List String),
      (∀ way, way ∈ chosen ↔
        way ∈ tree.files ∧ ∃ last, way.getLast? = some last ∧ EndsInOneOf extensions last) ∧
      chosen.Pairwise (fun a b => Path.byteNames a < Path.byteNames b) ∧
      (chosen.map (Path.below directory)).Pairwise (fun a b => Path.compare a b = .lt) ∧
      ∀ {σ : Type} (host : Host (StateM σ)) (listing : List (Except IoError Entry)) (s s₁ s₂ : σ),
        host.isDirectory directory s = (true, s₁) → host.walk directory s₁ = (listing, s₂) →
        (listing.filterMap Except.toOption).Perm (tree.entries directory) →
        discover host directory extensions s = (.ok (chosen.map (Path.below directory)), s₂) := by
  have hsorted := Tree.pairwise_chosen h directory extensions
  refine ⟨tree.chosen directory extensions, fun way => Tree.mem_chosen h directory extensions, ?_,
    List.pairwise_map.mpr hsorted, fun host listing s s₁ s₂ hdirectory hlisting hperm => ?_⟩
  · refine hsorted.imp_of_mem fun ha hb hlt => ?_
    have hnames {way : List String} (hway : way ∈ tree.chosen directory extensions) :=
      h.isName way ((Tree.mem_chosen h directory extensions).mp hway).1
    exact (Path.compare_below_eq_lt_iff (hnames ha) (hnames hb) directory).mp hlt
  · have hdistinct : ∀ a ∈ tree.files.map (Path.below directory),
        ∀ b ∈ tree.files.map (Path.below directory),
          Path.components a = Path.components b → a = b := by
      refine List.forall_mem_map.mpr fun a ha => List.forall_mem_map.mpr fun b hb heq => ?_
      rw [Path.below_inj (h.isName a ha) (h.isName b hb) heq]
    have hfiles : (regularFiles listing).Perm (tree.files.map (Path.below directory)) := by
      rw [← Tree.filter_entries]
      exact (hperm.filter isRegular).map Entry.path
    have hselect := (select_perm extensions hdistinct hfiles.symm).symm
    rw [Tree.select_files] at hselect
    rw [discover_of_listing hdirectory hlisting, hselect]

/-- A directory with two workload files and some notes, of which one workload file is deeper. -/
def grove : Tree :=
  .file "late.js" (.directory "deep" (.file "early.JS" (.file "notes.txt" .empty)) .empty)

/-- A world in which the directory is on the disk, whose entries are listed in some order. -/
def groveWorld (listed : List (System.Location × System.Node) →
    List (System.Location × System.Node)) : System.World :=
  let entries := [(["work"], .directory), (["late.js", "work"], .file 0),
    (["deep", "work"], .directory), (["early.JS", "deep", "work"], .file 0),
    (["notes.txt", "deep", "work"], .file 0)]
  { System.World.bare with
    machine := { System.World.bare.machine with disk := ⟨listed entries, #[], [], 0⟩ } }

theorem discover_tree_both_ways :
    grove.Proper ∧ ∃ found,
      discover System.World.host "/work" ["js"] (groveWorld id) = (.ok found, groveWorld id) ∧
      discover System.World.host "/work" ["js"] (groveWorld List.reverse) =
        (.ok found, groveWorld List.reverse) := by
  have hname {n : String} (hc : Path.component? n = some (.name n)) (hs : '/' ∉ n.toList) :
      Path.IsName n := ⟨hc, hs⟩
  have hproper : grove.Proper :=
    .file (hname (by decide) (by decide)) (by decide)
      (.directory (hname (by decide) (by decide)) (by decide)
        (.file (hname (by decide) (by decide)) (by decide)
          (.file (hname (by decide) (by decide)) (by decide) .empty)) .empty)
  obtain ⟨chosen, -, -, -, hfound⟩ := discover_tree hproper "/work" ["js"]
  refine ⟨hproper, chosen.map (Path.below "/work"), ?_, ?_⟩
  · exact hfound System.World.host _ _ _ _ (Prod.ext (by decide +kernel) rfl)
      (Prod.ext rfl rfl) (by decide +kernel)
  · exact hfound System.World.host _ _ _ _ (Prod.ext (by decide +kernel) rfl)
      (Prod.ext rfl rfl) (by decide +kernel)

end Stopwatch.Discovery
