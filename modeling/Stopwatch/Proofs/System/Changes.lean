import Stopwatch.Proofs.System.Naming

/-!
# What operations change

`Changed` is the frame of an operation on a disk: nothing has changed but what some paths
lead to, and there may be more directories. Frames compose (`Changed.trans`), so what a
sequence of operations changes is known from its parts.

- `createDirectories_changed`, `write_changed`: the frames of single operations;
- `undo_of_free`: removing what was written undoes it, if its name was free;
- `lost_of_taken`: if it was taken, what had it is lost.
-/

namespace Stopwatch.System.Disk

/-! ### Frames -/

/-- Nothing has changed but what some paths lead to, and there may be more directories. -/
structure Changed (origin : Location) (paths : List String) (before after : Disk) : Prop where
  /-- All that was there is there. -/
  kept : ∀ location node, before.get? location = some node → after.get? location = some node
  /-- What is there was there, is a directory, or is what one of the paths leads to. -/
  fresh : ∀ location node, after.get? location = some node →
    before.get? location = some node ∨ node = .directory ∨
      ∃ path ∈ paths, after.find? origin path = some (location, node)
  /-- Every file is as it was, or one of the paths leads to it. -/
  files : ∀ location serial, before.get? location = some (.file serial) →
    after.file serial = before.file serial ∨
      ∃ path ∈ paths, ∃ place, after.find? origin path = some (place, .file serial)

theorem find?_of_follow {disk : Disk} {origin location : Location} {path : String} {node : Node}
    (h : disk.follow origin path .visit = .ok (.found location node)) :
    disk.find? origin path = some (location, node) := by
  rw [find?, h]

theorem follow_of_find? {disk : Disk} {origin location : Location} {path : String} {node : Node}
    (h : disk.find? origin path = some (location, node)) :
    disk.follow origin path .visit = .ok (.found location node) := by
  unfold find? at h
  split at h
  · rename_i hfollow
    cases h
    exact hfollow
  · cases h

namespace Changed

variable {origin : Location} {paths more : List String} {a b c : Disk}

theorem refl (origin : Location) (disk : Disk) : Changed origin [] disk disk where
  kept _ _ h := h
  fresh _ _ h := .inl h
  files _ _ _ := .inl rfl

/-- What a path has led to, it leads to afterwards. -/
theorem find? (h : Changed origin paths a b) {path : String} {location : Location} {node : Node}
    (hfind : a.find? origin path = some (location, node)) :
    b.find? origin path = some (location, node) :=
  find?_of_follow (follow_grown h.kept (follow_of_find? hfind))

theorem trans (h : Changed origin paths a b) (h' : Changed origin more b c) :
    Changed origin (paths ++ more) a c where
  kept location node hget := h'.kept location node (h.kept location node hget)
  fresh location node hget := by
    obtain hget | hnode | ⟨path, hpath, hfind⟩ := h'.fresh location node hget
    · obtain hget | hnode | ⟨path, hpath, hfind⟩ := h.fresh location node hget
      · exact .inl hget
      · exact .inr (.inl hnode)
      · exact .inr (.inr ⟨path, List.mem_append_left more hpath, h'.find? hfind⟩)
    · exact .inr (.inl hnode)
    · exact .inr (.inr ⟨path, List.mem_append_right paths hpath, hfind⟩)
  files location serial hget := by
    obtain hsame | ⟨path, hpath, place, hfind⟩ :=
      h'.files location serial (h.kept location _ hget)
    · obtain hold | ⟨path, hpath, place, hfind⟩ := h.files location serial hget
      · exact .inl (hsame.trans hold)
      · exact .inr ⟨path, List.mem_append_left more hpath, place, h'.find? hfind⟩
    · exact .inr ⟨path, List.mem_append_right paths hpath, place, hfind⟩

end Changed

section
variable {disk disk' : Disk} {origin : Location} {path : String} {content : ByteArray}

theorem put_directory_changed (origin : Location) {location : Location} (hroot : location ≠ [])
    (hmissing : disk.get? location = none) :
    Changed origin [] disk (disk.put location .directory) where
  kept other node hget := by
    have hne : other ≠ location := by
      rintro rfl
      rw [hmissing] at hget
      cases hget
    rw [get?_put disk hroot, if_neg hne, hget]
  fresh other node hget := by
    rw [get?_put disk hroot] at hget
    split at hget
    · cases hget
      exact .inr (.inl rfl)
    · exact .inl hget
  files _ _ _ := .inl rfl

/-- Making directories changes nothing else. -/
theorem createDirectories_changed (disk : Disk) (origin : Location) (path : String) :
    Changed origin [] disk (disk.createDirectories origin path).1 :=
  createDirectories_preserves (P := Changed origin [] disk)
    (fun _ _ h hroot hmissing => h.trans (put_directory_changed origin hroot hmissing))
    (.refl origin disk) origin path

/-! ### Writing -/

/-- What writing leaves: the path leads to a node, which was there or is new. -/
structure Landed (disk disk' : Disk) (origin : Location) (path : String) (target : Target)
    (location : Location) (node : Node) : Prop where
  follow : disk.follow origin path .fill = .ok target
  arrives : Arrives disk' location node target
  get : disk'.get? location = some node
  final : Final node
  kept : ∀ l n, disk.get? l = some n → disk'.get? l = some n
  fresh : ∀ l n, disk'.get? l = some n → disk.get? l = some n ∨ l = location ∧ n = node
  files : ∀ serial < disk.files.size,
    disk'.file serial = disk.file serial ∨ target = .found location (.file serial)
  found : ∀ l n, target = .found l n → l = location ∧ n = node ∧ disk.get? l = some n

theorem file_makeFile (disk : Disk) (location : Location) (content : ByteArray) (mode : Nat)
    {serial : Nat} (h : serial < disk.files.size) :
    (disk.makeFile location content mode).file serial = disk.file serial := by
  unfold file makeFile
  rw [Array.getElem?_push_lt h, Array.getElem?_eq_getElem h]

theorem file_fill (disk : Disk) {serial other : Nat} (h : other ≠ serial)
    (content : ByteArray) : (disk.fill serial content).file other = disk.file other := by
  unfold file fill changeFile
  rw [Array.getElem?_modify, if_neg (Ne.symm h)]

theorem landed_of_write (h : disk.write origin path content = .ok disk') :
    ∃ target location node, Landed disk disk' origin path target location node := by
  obtain ⟨location, hfollow, rfl⟩ | ⟨location, serial, hfollow, rfl⟩ |
    ⟨location, node, hfollow, hpassing, rfl⟩ := write_cases h
  · obtain ⟨hroot, hmissing⟩ := holds_of_follow (by decide) hfollow
    have hnew := disk.get?_makeFile hroot content usualMode
    have hplace := (hnew location).trans (if_pos rfl)
    refine ⟨_, location, .file disk.files.size, hfollow, .missing hplace ⟨nofun, nofun⟩, hplace,
      ⟨nofun, nofun⟩, fun l n hget => ?_, fun l n hget => ?_,
      fun serial hserial => .inl (file_makeFile disk location content usualMode hserial), nofun⟩
    · have hne : l ≠ location := by
        rintro rfl
        rw [hmissing] at hget
        cases hget
      rw [hnew, if_neg hne, hget]
    · rw [hnew] at hget
      split at hget
      · rename_i hl
        cases hget
        exact .inr ⟨hl, rfl⟩
      · exact .inl hget
  · obtain hdirectory | ⟨hget, hfinal⟩ := holds_of_follow (by decide) hfollow
    · cases hdirectory
    have hsame := disk.get?_fill serial content
    refine ⟨_, location, .file serial, hfollow, .found, (hsame location).trans hget, hfinal,
      fun l n hl => (hsame l).trans hl, fun l n hl => .inl ((hsame l).symm.trans hl),
      fun other _ => ?_, fun l n htarget => by cases htarget; exact ⟨rfl, rfl, hget⟩⟩
    by_cases hother : other = serial
    · exact .inr (by rw [hother])
    · exact .inl (file_fill disk hother content)
  · obtain hdirectory | ⟨hget, hfinal⟩ := holds_of_follow (by decide) hfollow
    · subst hdirectory
      cases hpassing
    exact ⟨_, location, node, hfollow, .found, hget, hfinal, fun _ _ hl => hl,
      fun _ _ hl => .inl hl, fun _ _ => .inl rfl,
      fun l n htarget => by cases htarget; exact ⟨rfl, rfl, hget⟩⟩

/-- Writing changes nothing but what the path leads to. -/
theorem write_changed (hsound : disk.Sound) (h : disk.write origin path content = .ok disk') :
    Changed origin [path] disk disk' := by
  obtain ⟨target, location, node, hlanded⟩ := landed_of_write h
  have hfind : disk'.find? origin path = some (location, node) :=
    find?_of_follow (follow_of_fill hlanded.kept hlanded.arrives hlanded.follow)
  refine { kept := hlanded.kept, fresh := fun l n hget => ?_, files := fun l serial hget => ?_ }
  · obtain hold | ⟨rfl, rfl⟩ := hlanded.fresh l n hget
    · exact .inl hold
    · exact .inr (.inr ⟨path, List.mem_singleton_self path, hfind⟩)
  · obtain hsame | htarget := hlanded.files serial (hsound.lt_of_get? hget)
    · exact .inl hsame
    · obtain ⟨-, rfl, -⟩ := hlanded.found _ _ htarget
      exact .inr ⟨path, List.mem_singleton_self path, location, hfind⟩

/-! ### Removing what was written -/

/-- Something has the name that a path ends in. -/
def Taken (disk : Disk) (origin : Location) (path : String) : Prop :=
  ∃ location node, disk.follow origin path .name = .ok (.found location node)

theorem lookup_filter_ne_location {location other : Location} (h : other ≠ location)
    (entries : List (Location × Node)) :
    (entries.filter fun e => e.1 ≠ location).lookup other = entries.lookup other := by
  induction entries with
  | nil => rfl
  | cons e es ih =>
    obtain ⟨key, node⟩ := e
    by_cases hkey : key = location
    · have hother : (other == key) = false := by simpa [hkey] using h
      rw [List.filter_cons_of_neg (by simpa using hkey), List.lookup_cons, hother]
      exact ih
    · rw [List.filter_cons_of_pos (by simpa using hkey), List.lookup_cons, List.lookup_cons, ih]

theorem lookup_filter_eq_none (location : Location) (entries : List (Location × Node)) :
    (entries.filter fun e => e.1 ≠ location).lookup location = none := by
  refine List.lookup_eq_none_iff.mpr fun e he => ?_
  have hne : e.1 ≠ location := by simpa using (List.mem_filter.mp he).2
  simpa using Ne.symm hne

theorem get?_erase (disk : Disk) {location : Location} (h : location ≠ []) (other : Location) :
    (disk.erase location).get? other =
      if other = location then none else disk.get? other := by
  cases other with
  | nil => rw [if_neg (Ne.symm h)]; rfl
  | cons name parent =>
    split
    · rename_i hother
      subst hother
      exact lookup_filter_eq_none _ disk.entries
    · rename_i hother
      exact lookup_filter_ne_location hother disk.entries

theorem remove_of_name {location : Location} {node : Node} (hnode : node ≠ .directory)
    (h : disk.follow origin path .name = .ok (.found location node)) :
    disk.remove origin path = .ok (disk.erase location) := by
  rw [remove, h]
  cases node with
  | directory => exact absurd rfl hnode
  | _ => rfl

theorem ne_nil_of_get? {location : Location} {node : Node} (hnode : node ≠ .directory)
    (h : disk.get? location = some node) : location ≠ [] := by
  rintro rfl
  exact hnode (Option.some.inj h).symm

/-- If nothing had the name, removing what was written undoes the writing. -/
theorem undo_of_free (hsound : disk.Sound) (hfree : ¬disk.Taken origin path)
    (h : disk.write origin path content = .ok disk') :
    ∃ disk'', disk'.remove origin path = .ok disk'' ∧ Changed origin [] disk disk'' := by
  obtain ⟨target, location, node, hlanded⟩ := landed_of_write h
  obtain ⟨hbefore, hafter⟩ | ⟨l, text, hbefore, -⟩ :=
    follow_name_of_fill hlanded.kept hlanded.arrives hlanded.follow
  · cases hlanded.arrives with
    | found => exact absurd ⟨location, node, hbefore⟩ hfree
    | missing _ _ =>
      have hroot := ne_nil_of_get? hlanded.final.1 hlanded.get
      obtain ⟨-, hmissing⟩ := holds_of_follow (by decide) hlanded.follow
      have herase := disk'.get?_erase hroot
      refine ⟨disk'.erase location, remove_of_name hlanded.final.1 hafter, ?_⟩
      refine { kept := fun l n hget => ?_, fresh := fun l n hget => ?_
               files := fun l serial hget => ?_ }
      · have hne : l ≠ location := by
          rintro rfl
          rw [hmissing] at hget
          cases hget
        rw [herase, if_neg hne]
        exact hlanded.kept l n hget
      · rw [herase] at hget
        split at hget
        · cases hget
        · rename_i hne
          obtain hold | ⟨hl, -⟩ := hlanded.fresh l n hget
          · exact .inl hold
          · exact absurd hl hne
      -- the content is still there, but without a name
      · obtain hsame | htarget := hlanded.files serial (hsound.lt_of_get? hget)
        · exact .inl hsame
        · cases htarget
  · exact absurd ⟨l, _, hbefore⟩ hfree

/-- If something had the name, removing what was written loses it. -/
theorem lost_of_taken (htaken : disk.Taken origin path)
    (h : disk.write origin path content = .ok disk') :
    ∃ location node disk'', node ≠ .directory ∧ disk.get? location = some node ∧
      disk'.remove origin path = .ok disk'' ∧ disk''.get? location = none := by
  obtain ⟨target, location, node, hlanded⟩ := landed_of_write h
  obtain ⟨l, n, hname⟩ := htaken
  have hlost (hnode : n ≠ .directory) (hget : disk.get? l = some n)
      (hafter : disk'.follow origin path .name = .ok (.found l n)) :
      ∃ location node disk'', node ≠ .directory ∧ disk.get? location = some node ∧
        disk'.remove origin path = .ok disk'' ∧ disk''.get? location = none := by
    refine ⟨l, n, disk'.erase l, hnode, hget, remove_of_name hnode hafter, ?_⟩
    rw [get?_erase disk' (ne_nil_of_get? hnode hget), if_pos rfl]
  obtain ⟨hbefore, hafter⟩ | ⟨l', text, hbefore, hafter⟩ :=
    follow_name_of_fill hlanded.kept hlanded.arrives hlanded.follow
  · have htarget : target = .found l n := Except.ok.inj (hbefore.symm.trans hname)
    obtain ⟨rfl, rfl, hget⟩ := hlanded.found l n htarget
    exact hlost hlanded.final.1 hget hafter
  · cases hbefore.symm.trans hname
    cases ends_of_follow hname with
    | final hget _ => exact hlost nofun hget hafter
    | link _ hget => exact hlost nofun hget hafter

end

end Stopwatch.System.Disk
