import Stopwatch.Gate
import Stopwatch.Proofs.Results.Reread
import Stopwatch.Proofs.System.World

/-!
# Calls of the gate

The gate reads a file, decides, and may write it. What it finds there decides everything:
there are five findings, three of which settle the answer, while the other two make the
results at hand the baseline.

- `Finding`, `finding`: what the gate can find, and what it finds in a world;
- `Call`, `run_act`: what it does then;
- `kept_of_run_act`: what was saved is there, unless its path leads away;
- `ofText_render`: what is found of what was saved.
-/

namespace Stopwatch.Gate

open Stopwatch.System (World)

/-! ### Findings -/

/-- What the gate finds at the path of a baseline. -/
inductive Finding where
  | absent
  | unreadable (e : IoError)
  | unparsable
  /-- A document without any test. -/
  | unused
  | usable (baseline : Results)

namespace Finding

def ofText (text : String) : Finding :=
  match Results.codec.read? text with
  | none => .unparsable
  | some results => if results.hasTests then .usable results else .unused

def ofRead : Except IoError String → Finding
  | .error (.system .notFound) => .absent
  | .error e => .unreadable e
  | .ok text => .ofText text

/-- The baseline that is found, if there is no fault. -/
def baseline : Finding → Except Fault (Option Results)
  | .absent => .ok none
  | .unreadable e => .error (.io e)
  | .unparsable => .error .json
  | .unused => .ok none
  | .usable results => .ok (some results)

/-- The results at hand become the baseline. -/
def IsOpen (f : Finding) : Prop := f = .absent ∨ f = .unused

theorem ofRead_error {e : IoError} (h : e ≠ .system .notFound) :
    ofRead (.error e) = .unreadable e := by
  cases e with
  | system e => cases e <;> first | rfl | exact absurd rfl h
  | _ => rfl

theorem baseline_ofText (text : String) : (ofText text).baseline = baselineOf text := by
  unfold ofText baselineOf
  cases Results.codec.read? text with
  | none => rfl
  | some results =>
    simp only
    split <;> rfl

end Finding

/-- What the gate finds in a world. -/
def finding (w : World) (path : String) : Finding := .ofRead (w.text path)

/-- Looking for a baseline leaves the world as it is. -/
theorem run_load (path : String) (w : World) :
    (load World.host path).run w = ((finding w path).baseline, w) := by
  unfold load finding
  rw [StateT.run_bind, World.run_readText]
  cases w.text path with
  | ok text => exact congrArg (·, w) (Finding.baseline_ofText text).symm
  | error e =>
    cases e with
    | system e => cases e <;> rfl
    | _ => rfl

/-! ### One call -/

/-- A call of the gate. -/
structure Call where
  current : Results
  threshold : Float

/-- Calls the gate in a world. -/
def Call.act (path : String) (call : Call) : World.Act (Except Fault Gate) :=
  check World.host call.current path call.threshold

/-- What the gate does, by what it finds. -/
theorem run_act (path : String) (call : Call) (w : World) :
    (call.act path).run w =
      match (finding w path).baseline with
      | .error e => (.error e, w)
      | .ok (some baseline) => (.ok (judge call.current baseline call.threshold), w)
      | .ok none =>
        match (save World.host call.current path).run w with
        | (.error e, w') => (.error e, w')
        | (.ok _, w') => (.ok (passSaving call.current), w') := by
  unfold Call.act check
  rw [StateT.run_bind, run_load]
  show StateT.run (match (finding w path).baseline with
    | .error e => _
    | .ok (some baseline) => _
    | .ok none => _) w = _
  split
  · rfl
  · rfl
  · rw [StateT.run_bind]
    obtain ⟨answer, w'⟩ := (save World.host call.current path).run w
    cases answer <;> rfl

/-- What does not fail answers, and leaves a world behind. -/
theorem exists_of_isOk {α ε : Type} {outcome : Except ε α × World}
    (h : outcome.1.isOk = true) : ∃ answer w', outcome = (.ok answer, w') := by
  obtain ⟨answer, w'⟩ := outcome
  cases answer with
  | error e => cases h
  | ok answer => exact ⟨answer, w', rfl⟩

section
variable {w : World} {path : String}

theorem run_act_of_fault {e : Fault} (h : (finding w path).baseline = .error e) (call : Call) :
    (call.act path).run w = (.error e, w) := by
  rw [run_act, h]

theorem run_act_of_usable {baseline : Results} (h : finding w path = .usable baseline)
    (call : Call) :
    (call.act path).run w = (.ok (judge call.current baseline call.threshold), w) := by
  rw [run_act, h]
  rfl

end

/-- What was saved is there, or the path leads to something that keeps nothing. -/
def Kept (w : World) (path : String) (results : Results) : Prop :=
  w.content path = .ok results.render.toUTF8 ∨ w.LeadsAway path

section
variable {w w' : World} {path : String} {current : Results}

theorem sound_of_run_makeDirectory (h : w.disk.Sound) {answer : Except IoError Unit}
    (hrun : (makeDirectory World.host path).run w = (answer, w')) : w'.disk.Sound := by
  unfold makeDirectory at hrun
  split at hrun
  · cases hrun
    exact h
  · exact World.sound_of_run_createDirectories h hrun

/-- Saving first makes the directory of the file, and then writes it. -/
theorem run_save (current : Results) (path : String) (w : World) :
    (save World.host current path).run w =
      match (makeDirectory World.host path).run w with
      | (.error e, w₁) => (.error (.io e), w₁)
      | (.ok _, w₁) =>
        match (World.host.write path current.render.toUTF8).run w₁ with
        | (.error e, w₂) => (.error (.io e), w₂)
        | (.ok _, w₂) => (.ok (), w₂) := by
  unfold save Host.writeText
  rw [StateT.run_bind]
  obtain ⟨made, w₁⟩ := (makeDirectory World.host path).run w
  cases made with
  | error e => rfl
  | ok _ =>
    show StateT.run (World.host.write path current.render.toUTF8 >>= _) w₁ = _
    rw [StateT.run_bind]
    dsimp only
    obtain ⟨written, w₂⟩ := (World.host.write path current.render.toUTF8).run w₁
    cases written <;> rfl

theorem sound_of_run_save (h : w.disk.Sound) {answer : Except Fault Unit}
    (hrun : (save World.host current path).run w = (answer, w')) : w'.disk.Sound := by
  rw [run_save] at hrun
  split at hrun
  · rename_i hmade
    cases hrun
    exact sound_of_run_makeDirectory h hmade
  · rename_i hmade
    have h₁ := sound_of_run_makeDirectory h hmade
    split at hrun <;> rename_i hwritten <;> cases hrun <;>
      exact World.sound_of_run_write h₁ hwritten

theorem kept_of_run_save (h : w.disk.Sound)
    (hrun : (save World.host current path).run w = (.ok (), w')) : Kept w' path current := by
  rw [run_save] at hrun
  split at hrun
  · cases hrun
  rename_i hmade
  have h₁ := sound_of_run_makeDirectory h hmade
  split at hrun
  · cases hrun
  · rename_i hwritten
    cases hrun
    exact World.content_of_run_write h₁ hwritten

/-- Nothing is saved but what is found to be open, and then what is saved is kept. -/
theorem kept_of_run_act (h : w.disk.Sound) (hopen : (finding w path).IsOpen) {call : Call}
    {gate : Gate} (hrun : (call.act path).run w = (.ok gate, w')) :
    gate = passSaving call.current ∧ Kept w' path call.current := by
  have hbaseline : (finding w path).baseline = .ok none := by
    obtain hfinding | hfinding := hopen <;> rw [hfinding] <;> rfl
  rw [run_act, hbaseline] at hrun
  simp only at hrun
  split at hrun
  · cases hrun
  · rename_i hsave
    cases hrun
    exact ⟨rfl, kept_of_run_save h hsave⟩

theorem sound_of_run_act (h : w.disk.Sound) {call : Call} {answer : Except Fault Gate}
    (hrun : (call.act path).run w = (answer, w')) : w'.disk.Sound := by
  rw [run_act] at hrun
  split at hrun
  · cases hrun
    exact h
  · cases hrun
    exact h
  · split at hrun <;> rename_i hsave <;> cases hrun <;> exact sound_of_run_save h hsave

end

/-! ### What is found of what was saved -/

/-- The text of a document is no document, or it is one with tests if and only if that had
some. -/
theorem ofText_render (results : Results) :
    Finding.ofText results.render = .unparsable ∨
      (if results.hasTests then ∃ r, Finding.ofText results.render = .usable r
      else Finding.ofText results.render = .unused) := by
  unfold Finding.ofText
  cases hread : Results.codec.read? results.render with
  | none => exact .inl rfl
  | some r =>
    right
    dsimp only
    rw [Results.hasTests_of_read? hread]
    split
    · exact ⟨r, rfl⟩
    · rfl

/-- What leads away is not a document. -/
theorem finding_of_leadsAway {w : World} {path : String} (h : w.LeadsAway path) :
    finding w path = .unparsable ∨ ∃ e, finding w path = .unreadable e := by
  unfold finding
  obtain htext | ⟨e, htext, hne⟩ := World.text_of_leadsAway h
  · rw [htext]
    exact .inl rfl
  · rw [htext]
    exact .inr ⟨e, Finding.ofRead_error hne⟩

end Stopwatch.Gate
