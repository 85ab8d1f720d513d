import Stopwatch.Proofs.System.Joined

/-!
# Files of their own

Some names in a directory have files of their own if none of them is a link, a device or a pipe, and no file
has two of them. Then each path that ends in one of these names leads to the entry of the name and to
nothing else. Making directories and writing files keep this so.

- `Disk.OwnFiles`: names with files of their own;
- `OwnFiles.createDirectories`, `OwnFiles.write`: it stays so;
- `OwnFiles.find?_join`: where a path with such a name leads.
-/

namespace Stopwatch.System.Disk

/-- Under some names a directory has only files and directories, and no file has two of them. -/
structure OwnFiles (disk : Disk) (location : Location) (names : List String) : Prop where
  regular : ∀ n ∈ names, ∀ node, disk.get? (n :: location) = some node →
    node = .directory ∨ ∃ serial, node = .file serial
  single : ∀ n ∈ names, ∀ m ∈ names, ∀ serial, disk.get? (n :: location) = some (.file serial) →
    disk.get? (m :: location) = some (.file serial) → n = m

namespace OwnFiles

variable {disk disk' : Disk} {location : Location} {names : List String}

theorem put_directory (h : disk.OwnFiles location names) {place : Location} (hroot : place ≠ []) :
    (disk.put place .directory).OwnFiles location names where
  regular n hn node hget := by
    rw [get?_put disk hroot] at hget
    split at hget
    · exact .inl (Option.some.inj hget).symm
    · exact h.regular n hn node hget
  single n hn m hm serial hget hget' := by
    rw [get?_put disk hroot] at hget hget'
    split at hget
    · cases hget
    split at hget'
    · cases hget'
    exact h.single n hn m hm serial hget hget'

/-- A new file has no name but its own. -/
theorem makeFile (h : disk.OwnFiles location names) (hsound : disk.Sound) {place : Location}
    (hroot : place ≠ []) (content : ByteArray) (mode : Nat) :
    (disk.makeFile place content mode).OwnFiles location names where
  regular n hn node hget := by
    rw [get?_makeFile disk hroot] at hget
    split at hget
    · exact .inr ⟨_, (Option.some.inj hget).symm⟩
    · exact h.regular n hn node hget
  single n hn m hm serial hget hget' := by
    have hold {l : Location} (hfile : disk.get? l = some (.file disk.files.size)) : False :=
      absurd (hsound.lt_of_get? hfile) (Nat.lt_irrefl _)
    rw [get?_makeFile disk hroot] at hget hget'
    split at hget
    · rename_i hplace
      cases hget
      split at hget'
      · rename_i hplace'
        exact (List.cons.inj (hplace.trans hplace'.symm)).1
      · exact (hold hget').elim
    · split at hget'
      · cases hget'
        exact (hold hget).elim
      · exact h.single n hn m hm serial hget hget'

theorem fill (h : disk.OwnFiles location names) (serial : Nat) (content : ByteArray) :
    (disk.fill serial content).OwnFiles location names where
  regular n hn node hget := h.regular n hn node (by rwa [get?_fill] at hget)
  single n hn m hm serial hget hget' :=
    h.single n hn m hm serial (by rwa [get?_fill] at hget) (by rwa [get?_fill] at hget')

theorem createDirectories (h : disk.OwnFiles location names) (origin : Location) (path : String) :
    (disk.createDirectories origin path).1.OwnFiles location names :=
  createDirectories_preserves (P := fun d => d.OwnFiles location names)
    (fun _ _ hd hroot _ => hd.put_directory hroot) h origin path

theorem write (h : disk.OwnFiles location names) (hsound : disk.Sound) {origin : Location}
    {path : String} {content : ByteArray} (hwrite : disk.write origin path content = .ok disk') :
    disk'.OwnFiles location names := by
  obtain ⟨place, hfollow, rfl⟩ | ⟨_, serial, _, rfl⟩ | ⟨_, _, _, _, rfl⟩ := write_cases hwrite
  · obtain ⟨hroot, -⟩ := holds_of_follow (by decide) hfollow
    exact h.makeFile hsound hroot content usualMode
  · exact h.fill serial content
  · exact h

/-- A path with such a name leads to the entry of the name. -/
theorem find?_join (h : disk.OwnFiles location names) {origin : Location} {base n : String}
    (hbase : disk.LeadsInto origin base location) (hmem : n ∈ names) (hn : Path.IsName n)
    {l : Location} {node : Node} (hfind : disk.find? origin (Path.join base n) = some (l, node)) :
    l = n :: location ∧ disk.get? (n :: location) = some node := by
  have hlink (text : String) : disk.get? (n :: location) ≠ some (.link text) := fun hget => by
    obtain hnode | ⟨_, hnode⟩ := h.regular n hmem _ hget <;> cases hnode
  obtain ⟨rfl, hget⟩ := Disk.find?_join hn hbase hlink hfind
  exact ⟨rfl, hget⟩

end OwnFiles

end Stopwatch.System.Disk
