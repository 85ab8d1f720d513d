import Stopwatch.Proofs.Gate.Calls

/-!
# The life of a baseline

A file that cannot be read, that is no document, or that holds a test is never written
again, and every other is replaced by the results at hand. So over any sequence of calls the
file settles on the first results that have a test.

- `run`: the gate is called again and again;
- `kept_of_run`: from a file on, the first results with a test are kept;
- `Life`, `life`: the laws of a baseline, which hold in every world and after any calls;
- `nothing_kept`: what is saved to a device is not there afterwards.
-/

namespace Stopwatch.Gate

open Stopwatch.System (World)

/-! ### Many calls -/

/-- Calls the gate again and again, with the same path. -/
def run (path : String) (calls : List Call) : World.Act (List (Except Fault Gate)) :=
  calls.mapM (Call.act path)

/-- The first of these results that has a test, or else the last one. -/
def reference? (all : List Results) : Option Results :=
  (all.find? Results.hasTests).or all.getLast?

theorem reference?_cons_of_hasTests {r : Results} (h : r.hasTests = true) (rs : List Results) :
    reference? (r :: rs) = some r := by
  rw [reference?, List.find?_cons_of_pos h, Option.some_or]

theorem reference?_cons_of_not_hasTests {r : Results} (h : r.hasTests = false) (r' : Results)
    (rs : List Results) : reference? (r :: r' :: rs) = reference? (r' :: rs) := by
  rw [reference?, reference?, List.find?_cons_of_neg (by rw [h]; decide),
    List.getLast?_cons_cons]

theorem run_cons (path : String) (call : Call) (calls : List Call) (w : World) :
    (run path (call :: calls)).run w =
      let first := (call.act path).run w
      let rest := (run path calls).run first.2
      (first.1 :: rest.1, rest.2) := by
  unfold run
  rw [List.mapM_cons, StateT.run_bind]
  rfl

section
variable {w w' : World} {path : String} {call : Call} {calls : List Call}
  {answers : List (Except Fault Gate)}

theorem sound_of_run (h : w.disk.Sound) : ((run path calls).run w).2.disk.Sound := by
  induction calls generalizing w with
  | nil => exact h
  | cons call calls ih =>
    rw [run_cons]
    exact ih (sound_of_run_act h rfl)

/-- If every call answers without touching anything, so do many. -/
theorem run_of_forall {answer : Call → Except Fault Gate}
    (h : ∀ call : Call, (call.act path).run w = (answer call, w)) (calls : List Call) :
    (run path calls).run w = (calls.map answer, w) := by
  induction calls with
  | nil => rfl
  | cons call calls ih =>
    rw [run_cons, h]
    show (_ :: ((run path calls).run w).1, ((run path calls).run w).2) = _
    rw [ih, List.map_cons]

/-- If no call fails, then neither the first one nor the others do. -/
theorem run_cons_ok (hrun : (run path (call :: calls)).run w = (answers, w'))
    (hok : ∀ a ∈ answers, a.isOk = true) :
    ∃ gate w₁ rest, (call.act path).run w = (.ok gate, w₁) ∧
      (run path calls).run w₁ = (rest, w') ∧ ∀ a ∈ rest, a.isOk = true := by
  rw [run_cons] at hrun
  dsimp only at hrun
  cases hrun
  obtain ⟨hfirst, hrest⟩ := List.forall_mem_cons.mp hok
  obtain ⟨gate, w₁, hfirst⟩ := exists_of_isOk hfirst
  rw [hfirst] at hrest ⊢
  exact ⟨gate, w₁, _, rfl, rfl, hrest⟩

/-- From a file on, all calls that do not fail keep the first results with a test. -/
theorem kept_of_run (h : w.disk.Sound) {d : Results} (hkept : Kept w path d)
    (hrun : (run path calls).run w = (answers, w')) (hok : ∀ a ∈ answers, a.isOk = true) :
    ∃ r, reference? (d :: calls.map Call.current) = some r ∧ Kept w' path r := by
  induction calls generalizing w d answers with
  | nil =>
    cases hrun
    exact ⟨d, by cases htests : d.hasTests <;> simp [reference?, htests], hkept⟩
  | cons call calls ih =>
    obtain ⟨gate, w₁, rest, hfirst, hrest, hok⟩ := run_cons_ok hrun hok
    have hnofault (e : Fault) : (finding w path).baseline ≠ .error e := by
      intro hfault
      rw [run_act_of_fault hfault] at hfirst
      cases hfirst
    obtain hcontent | haway := hkept
    · have hfinding : finding w path = .ofText d.render := by
        rw [finding, World.text_of_content hcontent]
        rfl
      obtain hnone | hsome := ofText_render d
      · exact absurd (by rw [hfinding, hnone]; rfl) (hnofault .json)
      rw [← hfinding] at hsome
      split at hsome
      -- the file is only read from now on
      · rename_i htests
        obtain ⟨r, hr⟩ := hsome
        rw [run_act_of_usable hr] at hfirst
        cases hfirst
        obtain ⟨r', hr', hkept'⟩ := ih h (.inl hcontent) hrest hok
        rw [reference?_cons_of_hasTests htests] at hr' ⊢
        exact ⟨r', hr', hkept'⟩
      -- the results at hand take the place of those that have no test
      · rename_i htests
        obtain ⟨_, hkept'⟩ := kept_of_run_act h (.inr hsome) hfirst
        rw [List.map_cons, reference?_cons_of_not_hasTests (Bool.eq_false_iff.mpr htests)]
        exact ih (sound_of_run_act h hfirst) hkept' hrest hok
    · obtain hfault | ⟨e, hfault⟩ := finding_of_leadsAway haway
      · exact absurd (by rw [hfault]; rfl) (hnofault .json)
      · exact absurd (by rw [hfault]; rfl) (hnofault (.io e))

/-- The laws of a baseline in a world. -/
structure Life (w : World) (path : String) : Prop where
  /-- A file that cannot be read is a fault for every call, and nothing is touched. -/
  unreadable : ∀ e, finding w path = .unreadable e → ∀ calls,
    (run path calls).run w = (calls.map fun _ => .error (.io e), w)
  /-- So is a file that is no document. -/
  unparsable : finding w path = .unparsable → ∀ calls,
    (run path calls).run w = (calls.map fun _ => .error .json, w)
  /-- With a test in the file every call only judges, and nothing is touched. -/
  usable : ∀ baseline, finding w path = .usable baseline → ∀ calls,
    (run path calls).run w =
        (calls.map fun call => .ok (judge call.current baseline call.threshold), w) ∧
      ∀ call ∈ calls, (judge call.current baseline call.threshold).saved = false
  /-- Otherwise a call that does not fail leaves its own results there, unless the path
  leads away. -/
  saves : finding w path = .absent ∨ finding w path = .unused → ∀ call : Call, ∀ gate w',
    (call.act path).run w = (.ok gate, w') →
      gate.success = true ∧ gate.saved = true ∧
        (¬w'.LeadsAway path → w'.content path = .ok call.current.render.toUTF8)
  /-- So the first results with a test stay, or else the last ones. -/
  settles : finding w path = .absent → ∀ calls answers w', calls ≠ [] →
    (run path calls).run w = (answers, w') → (∀ a ∈ answers, a.isOk = true) →
      ¬w'.LeadsAway path → ∃ reference, reference? (calls.map Call.current) = some reference ∧
        w'.content path = .ok reference.render.toUTF8

/-- **The life of a baseline**: the laws hold in every world, and after any calls. -/
theorem life (h : w.disk.Sound) (path : String) (before : List Call) :
    Life ((run path before).run w).2 path := by
  have hsound : ((run path before).run w).2.disk.Sound := sound_of_run h
  generalize ((run path before).run w).2 = w at hsound
  exact {
    unreadable := fun e hfinding => run_of_forall (run_act_of_fault (by rw [hfinding]; rfl))
    unparsable := fun hfinding => run_of_forall (run_act_of_fault (by rw [hfinding]; rfl))
    usable := fun baseline hfinding calls =>
      ⟨run_of_forall (run_act_of_usable hfinding) calls, fun _ _ => rfl⟩
    saves := fun hopen call gate w' hrun => by
      obtain ⟨rfl, hkept⟩ := kept_of_run_act hsound hopen hrun
      exact ⟨rfl, rfl, hkept.resolve_right⟩
    settles := fun hfinding calls answers w' hne hrun hok haway => by
      cases calls with
      | nil => exact absurd rfl hne
      | cons call calls =>
        obtain ⟨gate, w₁, rest, hfirst, hrest, hok⟩ := run_cons_ok hrun hok
        obtain ⟨_, hkept⟩ := kept_of_run_act hsound (.inl hfinding) hfirst
        obtain ⟨r, hr, hkept'⟩ := kept_of_run (sound_of_run_act hsound hfirst) hkept hrest hok
        exact ⟨r, hr, hkept'.resolve_right haway⟩ }

end

/-- Results without any test. -/
def bare : Results := ⟨"2026-01-02T03:04:05Z", [], none, none, none⟩

/-- Results with one test. -/
def measured : Results := { bare with groups := [⟨"A", [default]⟩] }

/-- In an empty world, bare results are replaced by measured ones. -/
theorem life_measured :
    (default : World).disk.Sound ∧
    ∃ answers w', (run "b.json" [⟨bare, 10.0⟩, ⟨measured, 10.0⟩]).run default = (answers, w') ∧
      w'.content "b.json" = .ok measured.render.toUTF8 := by
  have hsound : (default : World).disk.Sound := by decide
  have hlife : Life default "b.json" := life hsound "b.json" []
  have hok : ∀ a ∈ ((run "b.json" [⟨bare, 10.0⟩, ⟨measured, 10.0⟩]).run default).1,
      a.isOk = true := by
    decide +kernel
  have haway : ¬((run "b.json" [⟨bare, 10.0⟩, ⟨measured, 10.0⟩]).run default).2.LeadsAway
      "b.json" := by
    decide +kernel
  generalize hrun : (run "b.json" [⟨bare, 10.0⟩, ⟨measured, 10.0⟩]).run default = outcome
    at hok haway ⊢
  obtain ⟨answers, w'⟩ := outcome
  obtain ⟨r, hr, hcontent⟩ := hlife.settles rfl _ answers w' (by decide) hrun hok haway
  cases hr
  exact ⟨hsound, answers, w', rfl, hcontent⟩

/-- A world with a link to a device that keeps nothing. -/
def linked : World :=
  (default : World).withDisk
    ⟨[(["dev"], .directory), (["null", "dev"], .device .null), (["null"], .link "/dev/null")],
      #[], [], 0⟩

/-- Nothing is found at a path through a directory that does not exist. A call makes that
directory, so that the path leads through it to a device, and the baseline is lost. -/
theorem nothing_kept :
    finding linked "new/../null" = .absent ∧
    ∃ gate w', (Call.act "new/../null" ⟨bare, 10.0⟩).run linked = (.ok gate, w') ∧
      gate.saved = true ∧ w'.content "new/../null" ≠ .ok bare.render.toUTF8 := by
  have hsound : linked.disk.Sound := by decide
  have hok : ((Call.act "new/../null" ⟨bare, 10.0⟩).run linked).1.isOk = true := by
    decide +kernel
  have hlost : ((Call.act "new/../null" ⟨bare, 10.0⟩).run linked).2.content "new/../null" ≠
      .ok bare.render.toUTF8 := by
    decide +kernel
  obtain ⟨gate, w', hrun⟩ := exists_of_isOk hok
  rw [hrun] at hlost
  obtain ⟨rfl, _⟩ := kept_of_run_act hsound (.inl rfl) hrun
  exact ⟨rfl, passSaving bare, w', hrun, rfl, hlost⟩

end Stopwatch.Gate
