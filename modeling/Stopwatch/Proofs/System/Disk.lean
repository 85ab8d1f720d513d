import Stopwatch.Proofs.System.Following

/-!
# What a disk keeps

A file that was written is read back, unless its path leads to something that keeps
nothing.

- `lookup_putEntry`, `get?_makeFile`: what an operation adds;
- `Sound`: every file that has a name has a content, which all operations preserve;
- `write_cases`: what writing can do;
- `read_of_write`: what was written is read;
- `createDirectories_preserves`: what making directories keeps.
-/

namespace Stopwatch.System.Disk

/-! ### Entries -/

theorem lookup_putEntry (location other : Location) (node : Node)
    (entries : List (Location × Node)) :
    (putEntry location node entries).lookup other =
      if other = location then some node else entries.lookup other := by
  induction entries with
  | nil =>
    rw [putEntry, List.lookup_cons]
    split <;> simp_all
  | cons e es ih =>
    obtain ⟨key, old⟩ := e
    rw [putEntry]
    by_cases hkey : key = location
    · rw [if_pos hkey, List.lookup_cons, List.lookup_cons, hkey]
      split <;> simp_all
    · rw [if_neg hkey, List.lookup_cons, List.lookup_cons, ih]
      cases hother : other == key with
      | true =>
        have hne : other ≠ location := eq_of_beq hother ▸ hkey
        exact (if_neg hne).symm
      | false => rfl

/-- A new node shows at its own location only. The root cannot be replaced. -/
theorem get?_put (disk : Disk) {location : Location} (h : location ≠ []) (other : Location)
    (node : Node) :
    (disk.put location node).get? other =
      if other = location then some node else disk.get? other := by
  cases other with
  | nil => rw [if_neg (Ne.symm h)]; rfl
  | cons name parent => exact lookup_putEntry location (name :: parent) node disk.entries

theorem get?_makeFile (disk : Disk) {location : Location} (h : location ≠ [])
    (content : ByteArray) (mode : Nat) (other : Location) :
    (disk.makeFile location content mode).get? other =
      if other = location then some (.file disk.files.size) else disk.get? other :=
  get?_put disk h other (.file disk.files.size)

/-! ### Sound disks -/

/-- A file that a node names has one of the first numbers. -/
def Numbered (count : Nat) : Node → Prop
  | .file serial => serial < count
  | _ => True

instance (count : Nat) (node : Node) : Decidable (Numbered count node) :=
  match node with
  | .file serial => inferInstanceAs (Decidable (serial < count))
  | .directory | .link _ | .tool _ | .device _ | .fifo _ => isTrue trivial

theorem Numbered.mono {m n : Nat} {node : Node} (h : Numbered m node) (hmn : m ≤ n) :
    Numbered n node := by
  cases node with
  | file serial => exact Nat.lt_of_lt_of_le h hmn
  | _ => trivial

/-- Every file that has a name has a content. -/
def Sound (disk : Disk) : Prop := ∀ e ∈ disk.entries, Numbered disk.files.size e.2

instance (disk : Disk) : Decidable disk.Sound := List.decidableBAll _ disk.entries

theorem mem_putEntry {location : Location} {node : Node} {entries : List (Location × Node)}
    {e : Location × Node} (h : e ∈ putEntry location node entries) :
    e = (location, node) ∨ e ∈ entries := by
  induction entries with
  | nil => exact .inl (List.mem_singleton.mp h)
  | cons e' es ih =>
    rw [putEntry] at h
    split at h
    · obtain rfl | h := List.mem_cons.mp h
      · exact .inl rfl
      · exact .inr (List.mem_cons_of_mem e' h)
    · obtain rfl | h := List.mem_cons.mp h
      · exact .inr List.mem_cons_self
      · exact (ih h).imp_right (List.mem_cons_of_mem e')

namespace Sound

variable {disk disk' : Disk}

/-- Adding an entry keeps a disk sound, if files are only added as well. -/
theorem of_putEntry (h : disk.Sound) {location : Location} {node : Node}
    (hentries : disk'.entries = putEntry location node disk.entries)
    (hfiles : disk.files.size ≤ disk'.files.size) (hnode : Numbered disk'.files.size node) :
    disk'.Sound := by
  intro e he
  rw [hentries] at he
  obtain rfl | he := mem_putEntry he
  · exact hnode
  · exact (h e he).mono hfiles

theorem put_directory (h : disk.Sound) (location : Location) :
    (disk.put location .directory).Sound :=
  h.of_putEntry rfl (Nat.le_refl _) trivial

theorem makeFile (h : disk.Sound) (location : Location) (content : ByteArray) (mode : Nat) :
    (disk.makeFile location content mode).Sound := by
  have hsize : (disk.makeFile location content mode).files.size = disk.files.size + 1 :=
    Array.size_push _
  refine h.of_putEntry rfl ?_ ?_
  · rw [hsize]
    exact Nat.le_succ _
  · rw [hsize]
    exact Nat.lt_succ_self _

theorem fill (h : disk.Sound) (serial : Nat) (content : ByteArray) :
    (disk.fill serial content).Sound := by
  intro e he
  have hsize : (disk.fill serial content).files.size = disk.files.size := Array.size_modify
  rw [hsize]
  exact h e he

theorem lt_of_get? (h : disk.Sound) {location : Location} {serial : Nat}
    (hget : disk.get? location = some (.file serial)) : serial < disk.files.size := by
  cases location with
  | nil => cases hget
  | cons name parent =>
    obtain ⟨before, after, hentries, -⟩ := List.lookup_eq_some_iff.mp hget
    have hmem : ((name :: parent, .file serial) : Location × Node) ∈ disk.entries := by
      rw [hentries]
      exact List.mem_append_right before List.mem_cons_self
    exact h _ hmem

end Sound

/-! ### Writing and reading -/

/-- A device or a pipe: what is written there is not kept. -/
inductive Passing : Node → Prop where
  | device (d : Device) : Passing (.device d)
  | fifo (serial : Nat) : Passing (.fifo serial)

instance (node : Node) : Decidable (Passing node) :=
  match node with
  | .device d => isTrue (.device d)
  | .fifo serial => isTrue (.fifo serial)
  | .file _ | .directory | .link _ | .tool _ => isFalse nofun

/-- A path leads to a device or a pipe. -/
def LeadsAway (disk : Disk) (origin : Location) (path : String) : Prop :=
  ∃ location node, disk.follow origin path .visit = .ok (.found location node) ∧ Passing node

instance (disk : Disk) (origin : Location) (path : String) :
    Decidable (disk.LeadsAway origin path) :=
  match h : disk.follow origin path .visit with
  | .ok (.found location node) =>
    decidable_of_iff (Passing node) ⟨fun hnode => ⟨location, node, h, hnode⟩,
      fun ⟨_, _, hfound, hnode⟩ => by
        rw [h] at hfound
        cases hfound
        exact hnode⟩
  | .ok (.missing _) => isFalse fun ⟨_, _, hfound, _⟩ => by
    rw [h] at hfound
    cases hfound
  | .error _ => isFalse fun ⟨_, _, hfound, _⟩ => by
    rw [h] at hfound
    cases hfound

section
variable {disk disk' : Disk} {origin : Location} {path : String} {content : ByteArray}

/-- What writing can do: make a file, fill one, or nothing. -/
theorem write_cases (h : disk.write origin path content = .ok disk') :
    (∃ location, disk.follow origin path .fill = .ok (.missing location) ∧
      disk' = disk.makeFile location content usualMode) ∨
    (∃ location serial, disk.follow origin path .fill = .ok (.found location (.file serial)) ∧
      disk' = disk.fill serial content) ∨
    ∃ location node, disk.follow origin path .fill = .ok (.found location node) ∧
      Passing node ∧ disk' = disk := by
  cases hfollow : disk.follow origin path .fill with
  | error e =>
    rw [write, hfollow] at h
    cases h
  | ok target =>
    rw [write, hfollow] at h
    cases target with
    | missing location =>
      have hmake : disk.createFile location content usualMode = .ok disk' := h
      unfold createFile at hmake
      split at hmake
      · cases hmake
      · exact .inl ⟨location, rfl, (Except.ok.inj hmake).symm⟩
    | found location node =>
      have hnode := holds_of_follow (by decide) hfollow
      cases node with
      | file serial => exact .inr (.inl ⟨location, serial, rfl, (Except.ok.inj h).symm⟩)
      | directory => cases h
      | tool name => cases h
      | fifo serial =>
        exact .inr (.inr ⟨location, _, rfl, .fifo serial, (Except.ok.inj h).symm⟩)
      | link text =>
        -- only a name that is not followed further leads to a link
        obtain hdirectory | ⟨_, hfinal⟩ := hnode
        · cases hdirectory
        · exact absurd rfl (hfinal.2 text)
      | device d =>
        refine .inr (.inr ⟨location, _, rfl, .device d, ?_⟩)
        cases d with
        | full =>
          have hfull : (if content.isEmpty then .ok disk else .error .noSpace) =
              (.ok disk' : Except SystemError Disk) := h
          split at hfull
          · exact (Except.ok.inj hfull).symm
          · cases hfull
        | terminal => cases h
        | _ => exact (Except.ok.inj h).symm

theorem Sound.write (h : disk.Sound) (hwrite : disk.write origin path content = .ok disk') :
    disk'.Sound := by
  obtain ⟨location, _, rfl⟩ | ⟨_, serial, _, rfl⟩ | ⟨_, _, _, _, rfl⟩ := write_cases hwrite
  · exact h.makeFile location content usualMode
  · exact h.fill serial content
  · exact h

theorem read_of_visit {location : Location} {serial : Nat}
    (h : disk.follow origin path .visit = .ok (.found location (.file serial))) :
    disk.read origin path = .ok (disk.file serial).content := by
  rw [read, h]
  rfl

theorem get?_fill (disk : Disk) (serial : Nat) (content : ByteArray) (location : Location) :
    (disk.fill serial content).get? location = disk.get? location := by
  cases location <;> rfl

theorem content_makeFile (disk : Disk) (location : Location) (content : ByteArray)
    (mode : Nat) :
    ((disk.makeFile location content mode).file disk.files.size).content = content := by
  unfold file makeFile
  rw [Array.getElem?_push_size]
  rfl

theorem content_fill {serial : Nat} (h : serial < disk.files.size) (content : ByteArray) :
    ((disk.fill serial content).file serial).content = content := by
  unfold file fill changeFile
  rw [Array.getElem?_modify, if_pos rfl, Array.getElem?_eq_getElem h]
  rfl

/-- After writing the path leads to a file with what was written, or to something that keeps
nothing. -/
theorem leads_of_write (hsound : disk.Sound) (h : disk.write origin path content = .ok disk') :
    ∃ location node, disk'.follow origin path .visit = .ok (.found location node) ∧
      (Passing node ∨ ∃ serial, node = .file serial ∧ (disk'.file serial).content = content) := by
  obtain ⟨location, hfollow, rfl⟩ | ⟨location, serial, hfollow, rfl⟩ |
    ⟨location, node, hfollow, hpassing, rfl⟩ := write_cases h
  · obtain ⟨hroot, hmissing⟩ := holds_of_follow (by decide) hfollow
    have hnew := disk.get?_makeFile hroot content usualMode
    have hold (l : Location) (n : Node) (hget : disk.get? l = some n) :
        (disk.makeFile location content usualMode).get? l = some n := by
      have hne : l ≠ location := by
        rintro rfl
        rw [hmissing] at hget
        cases hget
      rw [hnew, if_neg hne, hget]
    have hvisit := follow_of_fill hold
      (.missing ((hnew location).trans (if_pos rfl)) ⟨nofun, nofun⟩) hfollow
    exact ⟨location, _, hvisit, .inr ⟨_, rfl, content_makeFile disk location content usualMode⟩⟩
  · have hvisit := follow_of_fill (fun l n hget => (disk.get?_fill serial content l).trans hget)
      .found hfollow
    obtain hdirectory | ⟨hget, _⟩ := holds_of_follow (by decide) hfollow
    · cases hdirectory
    · exact ⟨location, _, hvisit, .inr ⟨_, rfl, content_fill (hsound.lt_of_get? hget) content⟩⟩
  · exact ⟨location, node, follow_of_fill (fun _ _ hget => hget) .found hfollow, .inl hpassing⟩

/-- **What was written is read**, unless the path leads to something that keeps nothing. -/
theorem read_of_write (hsound : disk.Sound) (h : disk.write origin path content = .ok disk') :
    disk'.read origin path = .ok content ∨ disk'.LeadsAway origin path := by
  obtain ⟨location, node, hvisit, hpassing | ⟨serial, rfl, hcontent⟩⟩ := leads_of_write hsound h
  · exact .inr ⟨location, node, hvisit, hpassing⟩
  · rw [read_of_visit hvisit, hcontent]
    exact .inl rfl

/-- Nothing is read from what keeps nothing. -/
theorem read_of_leadsAway (h : disk.LeadsAway origin path) :
    disk.read origin path = .ok .empty ∨ disk.read origin path = .error .noDevice := by
  obtain ⟨location, node, hfollow, hnode⟩ := h
  rw [read, hfollow]
  cases hnode with
  | fifo serial => exact .inl rfl
  | device d =>
    cases d with
    | terminal => exact .inr rfl
    | _ => exact .inl rfl

/-! ### Making directories -/

theorem makeDirectory_cases (h : disk.makeDirectory origin path = .ok disk') :
    ∃ location, location ≠ [] ∧ disk.get? location = none ∧
      disk' = disk.put location .directory := by
  unfold makeDirectory at h
  cases hfollow : disk.follow origin (withoutSlashes path) .name with
  | error e =>
    rw [hfollow] at h
    cases h
  | ok target =>
    rw [hfollow] at h
    cases target with
    | found _ _ => cases h
    | missing location =>
      cases ends_of_follow hfollow with
      | missing hroot hget =>
        dsimp only [bind, Except.bind] at h
        split at h
        · cases h
        · exact ⟨location, hroot, hget, (Except.ok.inj h).symm⟩

section
variable {P : Disk → Prop}

theorem ensureDirectory_preserves
    (hput : ∀ d location, P d → location ≠ [] → d.get? location = none →
      P (d.put location .directory))
    (h : P disk) (hensure : disk.ensureDirectory origin path = .ok disk') : P disk' := by
  unfold ensureDirectory at hensure
  split at hensure
  · rename_i hmake
    obtain rfl := Except.ok.inj hensure
    obtain ⟨location, hroot, hget, rfl⟩ := makeDirectory_cases hmake
    exact hput disk location h hroot hget
  · split at hensure
    · obtain rfl := Except.ok.inj hensure
      exact h
    · cases hensure

theorem makeDirectories_preserves
    (hput : ∀ d location, P d → location ≠ [] → d.get? location = none →
      P (d.put location .directory))
    (h : P disk) (fuel : Nat) (path : String) :
    P (makeDirectories origin path fuel disk).1 := by
  induction fuel generalizing path with
  | zero => exact h
  | succ fuel ih =>
    rw [makeDirectories]
    split
    · exact h
    split
    · rename_i hensure
      exact ensureDirectory_preserves hput h hensure
    · split
      · exact h
      · rename_i parent _
        have hparent := ih parent
        split
        · rename_i hfailed
          rwa [hfailed] at hparent
        · rename_i hmade
          rw [hmade] at hparent
          split
          · rename_i hensure
            exact ensureDirectory_preserves hput hparent hensure
          · exact hparent
    · exact h

/-- What holds of a disk and is not lost when a directory is made where nothing was holds
whatever directories could be made. -/
theorem createDirectories_preserves
    (hput : ∀ d location, P d → location ≠ [] → d.get? location = none →
      P (d.put location .directory))
    (h : P disk) (origin : Location) (path : String) :
    P (disk.createDirectories origin path).1 :=
  makeDirectories_preserves hput h _ path

end

/-- Whatever directories could be made, the disk is sound. -/
theorem Sound.createDirectories (h : disk.Sound) (origin : Location) (path : String) :
    (disk.createDirectories origin path).1.Sound :=
  createDirectories_preserves (fun _ location hd _ _ => hd.put_directory location) h origin path

end

end Stopwatch.System.Disk
