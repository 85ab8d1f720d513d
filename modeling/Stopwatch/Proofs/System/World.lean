import Stopwatch.Proofs.System.Disk
import Stopwatch.System.World

/-!
# Files of a world

What the host that a world is makes of its files: reading leaves the world as it is, and
what was written is read, unless the path leads to something that keeps nothing.

- `World.content`, `World.text`: what is read at a path;
- `World.run_read`, `World.run_change`, `World.run_createDirectories`: the actions;
- `World.run_write_cases`: what writing can do;
- `World.content_of_run_write`: what was written is read.
-/

namespace Stopwatch.System.World

/-- What is read at a path. -/
def content (w : World) (path : String) : Except IoError ByteArray :=
  if hasZero path then .error .zeroInPath else (w.disk.read w.directory path).mapError .system

/-- The text that is read at a path. -/
def text (w : World) (path : String) : Except IoError String :=
  (w.content path).bind fun bytes => (String.fromUTF8? bytes).elim (.error .notText) .ok

theorem text_of_content {w : World} {path text : String}
    (h : w.content path = .ok text.toUTF8) : w.text path = .ok text := by
  have hvalid : String.fromUTF8? text.toUTF8 = some text := dif_pos text.isValidUTF8
  rw [World.text, h]
  show (String.fromUTF8? text.toUTF8).elim _ _ = _
  rw [hvalid]
  rfl

/-- A path leads to a device or a pipe. -/
def LeadsAway (w : World) (path : String) : Prop := w.disk.LeadsAway w.directory path

instance (w : World) (path : String) : Decidable (w.LeadsAway path) :=
  inferInstanceAs (Decidable (w.disk.LeadsAway w.directory path))

/-- The world with other files. -/
def withDisk (w : World) (disk : Disk) : World := { w with machine := { w.machine with disk } }

/-! ### Actions -/

theorem run_guarded {α : Type} (path : String) (action : Act (Except IoError α)) (w : World) :
    (guarded path action).run w =
      if hasZero path then (.error .zeroInPath, w) else action.run w := by
  unfold guarded
  split <;> rfl

theorem run_change (path : String) (f : World → Except SystemError Disk) (w : World) :
    (change path f).run w =
      if hasZero path then (.error .zeroInPath, w)
      else match f w with
        | .ok disk => (.ok (), w.withDisk disk)
        | .error e => (.error (.system e), w) := by
  unfold change
  rw [run_guarded]
  split
  · rfl
  · show StateT.run (match f w with
      | .ok disk => _
      | .error e => _) w = _
    cases f w <;> rfl

theorem run_change_of_ok {path : String} {f : World → Except SystemError Disk} {w : World}
    {disk : Disk} (hzero : hasZero path = false) (h : f w = .ok disk) :
    (change path f).run w = (.ok (), w.withDisk disk) := by
  rw [run_change, hzero, if_neg Bool.false_ne_true, h]

/-- Reading leaves the world as it is. -/
theorem run_read (path : String) (w : World) : (host.read path).run w = (w.content path, w) := by
  show (guarded path _).run w = _
  rw [run_guarded, content]
  split <;> rfl

theorem run_readText (path : String) (w : World) :
    (host.readText path).run w = (w.text path, w) := by
  unfold Host.readText text
  rw [StateT.run_bind, run_read]
  cases w.content path <;> rfl

theorem run_createDirectories (path : String) (w : World) :
    (host.createDirectories path).run w =
      if hasZero path then (.error .zeroInPath, w)
      else ((w.disk.createDirectories w.directory path).2.mapError .system,
        w.withDisk (w.disk.createDirectories w.directory path).1) :=
  run_guarded path _ w

section
variable {w w' : World} {path : String}

/-- Whatever directories could be made, every file that has a name has a content. -/
theorem sound_of_run_createDirectories (h : w.disk.Sound) {answer : Except IoError Unit}
    (hrun : (host.createDirectories path).run w = (answer, w')) : w'.disk.Sound := by
  rw [run_createDirectories] at hrun
  split at hrun
  · cases hrun
    exact h
  · cases hrun
    exact h.createDirectories w.directory path

/-- What an action that changes the files can do. -/
theorem run_change_cases {f : World → Except SystemError Disk} {answer : Except IoError Unit}
    (hrun : (change path f).run w = (answer, w')) :
    (∃ e, answer = .error e ∧ w' = w) ∨
      ∃ disk, answer = .ok () ∧ hasZero path = false ∧ f w = .ok disk ∧ w' = w.withDisk disk := by
  rw [run_change] at hrun
  split at hrun
  · cases hrun
    exact .inl ⟨_, rfl, rfl⟩
  rename_i hzero
  split at hrun
  · rename_i disk hf
    cases hrun
    exact .inr ⟨disk, rfl, Bool.eq_false_iff.mpr hzero, hf, rfl⟩
  · cases hrun
    exact .inl ⟨_, rfl, rfl⟩

/-- What writing can do. -/
theorem run_write_cases {bytes : ByteArray} {answer : Except IoError Unit}
    (hrun : (host.write path bytes).run w = (answer, w')) :
    (∃ e, answer = .error e ∧ w' = w) ∨
      ∃ disk, answer = .ok () ∧ hasZero path = false ∧
        w.disk.write w.directory path bytes = .ok disk ∧ w' = w.withDisk disk :=
  run_change_cases hrun

theorem sound_of_run_write (h : w.disk.Sound) {bytes : ByteArray} {answer : Except IoError Unit}
    (hrun : (host.write path bytes).run w = (answer, w')) : w'.disk.Sound := by
  obtain ⟨_, -, rfl⟩ | ⟨disk, -, -, hwrite, rfl⟩ := run_write_cases hrun
  · exact h
  · exact h.write hwrite

/-- What was written is read, unless the path leads to something that keeps nothing. -/
theorem content_of_run_write (h : w.disk.Sound) {bytes : ByteArray}
    (hrun : (host.write path bytes).run w = (.ok (), w')) :
    w'.content path = .ok bytes ∨ w'.LeadsAway path := by
  obtain ⟨_, hanswer, -⟩ | ⟨disk, -, hzero, hwrite, rfl⟩ := run_write_cases hrun
  · cases hanswer
  refine (Disk.read_of_write h hwrite).imp_left fun hread => ?_
  rw [content, hzero, if_neg Bool.false_ne_true]
  show (disk.read w.directory path).mapError IoError.system = _
  rw [hread]
  rfl

/-- Nothing is read from what keeps nothing. -/
theorem text_of_leadsAway (h : w.LeadsAway path) :
    w.text path = .ok "" ∨ ∃ e, w.text path = .error e ∧ e ≠ .system .notFound := by
  unfold text content
  split
  · exact .inr ⟨.zeroInPath, rfl, nofun⟩
  · obtain hread | hread := Disk.read_of_leadsAway h
    · rw [hread]
      exact .inl rfl
    · rw [hread]
      exact .inr ⟨.system .noDevice, rfl, nofun⟩

end

end Stopwatch.System.World
