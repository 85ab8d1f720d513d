import Mathlib.Control.Monad.Basic
import Stopwatch.Artifact
import Stopwatch.Proofs.System.Changes
import Stopwatch.Proofs.System.World

/-!
# Both artifacts or none

A sink that puts artifacts into a directory writes the page, then the document, and removes
the page if the document cannot be written. So either both texts are there afterwards, or
neither is; but a page that replaced something cannot be taken back.

- `run_directory`: what the sink does, step by step;
- `Overwrites`: the page takes the name of something else;
- `Persisted`, `persisted`: what a use of the sink leaves;
- `report_lost`: a report that is lost because the new document cannot be written.
-/

namespace Stopwatch.Sink

open Stopwatch.System (World Disk Location)

/-! ### The steps -/

theorem run_directory (path stamp page document : String) (w : World) :
    (directory World.host path stamp page document).run w =
      let artifact := Artifact.within path stamp
      match (World.host.createDirectories path).run w with
      | (.error e, w₁) => (.error (.io e), w₁)
      | (.ok _, w₁) =>
        match (World.host.writeText artifact.report page).run w₁ with
        | (.error e, w₂) => (.error (.io e), w₂)
        | (.ok _, w₂) =>
          match (World.host.writeText artifact.results document).run w₂ with
          | (.error e, w₃) => (.error (.io e), ((World.host.remove artifact.report).run w₃).2)
          | (.ok _, w₃) => (.ok artifact, w₃) := by
  unfold directory
  rw [StateT.run_bind]
  obtain ⟨made, w₁⟩ := (World.host.createDirectories path).run w
  cases made with
  | error e => rfl
  | ok _ =>
    show StateT.run (World.host.writeText _ page >>= _) w₁ = _
    rw [StateT.run_bind]
    dsimp only
    obtain ⟨written, w₂⟩ := (World.host.writeText (Artifact.within path stamp).report page).run w₁
    cases written with
    | error e => rfl
    | ok _ =>
      show StateT.run (World.host.writeText _ document >>= _) w₂ = _
      rw [StateT.run_bind]
      dsimp only
      obtain ⟨written, w₃⟩ :=
        (World.host.writeText (Artifact.within path stamp).results document).run w₂
      cases written <;> rfl

/-- If the sink answers with artifacts, a directory was made and both texts were written. -/
theorem writes_of_run {path stamp page document : String} {w w' : World} {artifact : Artifact}
    (h : (directory World.host path stamp page document).run w = (.ok artifact, w')) :
    artifact = Artifact.within path stamp ∧ ∃ w₁ w₂,
      (World.host.createDirectories path).run w = (.ok (), w₁) ∧
        (World.host.writeText artifact.report page).run w₁ = (.ok (), w₂) ∧
        (World.host.writeText artifact.results document).run w₂ = (.ok (), w') := by
  rw [run_directory] at h
  dsimp only at h
  split at h
  · cases h
  rename_i w₁ hmade
  split at h
  · cases h
  rename_i w₂ hpage
  split at h
  · cases h
  rename_i w₃ hdocument
  cases h
  exact ⟨rfl, w₁, w₂, hmade, hpage, hdocument⟩

/-! ### What is there afterwards -/

/-- The page can be written, and it gets a name that something else had. -/
def Overwrites (w : World) (path stamp page : String) : Prop :=
  ∃ w₁ w₂, (World.host.createDirectories path).run w = (.ok (), w₁) ∧
    w₁.disk.Taken w₁.directory (Artifact.within path stamp).report ∧
    (World.host.writeText (Artifact.within path stamp).report page).run w₁ = (.ok (), w₂)

/-- The paths of two artifacts lead to two files, and to nothing that keeps nothing. -/
structure Apart (w : World) (artifact : Artifact) : Prop where
  report : ¬w.LeadsAway artifact.report
  results : ¬w.LeadsAway artifact.results
  different : ∀ l l' serial,
    w.disk.find? w.directory artifact.report = some (l, .file serial) →
      w.disk.find? w.directory artifact.results ≠ some (l', .file serial)

/-- What a use of the sink leaves. -/
structure Persisted (w : World) (path stamp page document : String)
    (answer : Except Fault Artifact) (w' : World) : Prop where
  /-- Only files and directories have changed. -/
  world : w' = w.withDisk w'.disk
  /-- If the sink answers with the artifacts, they have their texts, and all other files are
  as they were. -/
  stored : ∀ artifact, answer = .ok artifact → artifact = Artifact.within path stamp ∧
    Disk.Changed w.directory [artifact.report, artifact.results] w.disk w'.disk ∧
    (Apart w' artifact → w'.content artifact.report = .ok page.toUTF8 ∧
      w'.content artifact.results = .ok document.toUTF8)
  /-- If it fails, nothing of the two texts is left, and all files are as they were; unless
  the page took the name of something, which is lost. -/
  undone : ∀ e, answer = .error e →
    (Disk.Changed w.directory [] w.disk w'.disk ↔ ¬Overwrites w path stamp page)

theorem Persisted.of_error {w w' : World} {path stamp page document : String} {e : Fault}
    (hworld : w' = w.withDisk w'.disk) (hchanged : Disk.Changed w.directory [] w.disk w'.disk)
    (hsafe : ¬Overwrites w path stamp page) :
    Persisted w path stamp page document (.error e) w' where
  world := hworld
  stored := nofun
  undone _ _ := iff_of_true hchanged hsafe

section
variable {w w₁ w₂ w₃ : World} {path stamp page document : String}

/-- What the directories that could be made leave. -/
theorem made_of_run {made : Except IoError Unit}
    (h : (World.host.createDirectories path).run w = (made, w₁)) :
    w₁ = w.withDisk w₁.disk ∧ Disk.Changed w.directory [] w.disk w₁.disk := by
  rw [World.run_createDirectories] at h
  split at h
  · cases h
    exact ⟨rfl, .refl _ _⟩
  · cases h
    exact ⟨rfl, Disk.createDirectories_changed w.disk w.directory path⟩

/-- A text that was written stays when others are written elsewhere. -/
theorem content_of_write (hsound : w₁.disk.Sound) {later : List String}
    (hwrite : (World.host.writeText path page).run w₁ = (.ok (), w₂))
    (hchanged : Disk.Changed w₂.directory later w₂.disk w₃.disk)
    (hdirectory : w₃.directory = w₂.directory) (haway : ¬w₃.LeadsAway path)
    (helsewhere : ∀ other ∈ later, ∀ l l' serial,
      w₃.disk.find? w₃.directory path = some (l, .file serial) →
        w₃.disk.find? w₃.directory other ≠ some (l', .file serial)) :
    w₃.content path = .ok page.toUTF8 := by
  obtain ⟨_, hanswer, -⟩ | ⟨disk, -, hzero, hdisk, rfl⟩ := World.run_write_cases hwrite
  · cases hanswer
  obtain ⟨location, node, hvisit, hnode⟩ := Disk.leads_of_write hsound hdisk
  have hfind := hchanged.find? (Disk.find?_of_follow hvisit)
  rw [← hdirectory] at hfind
  obtain hpassing | ⟨serial, rfl, hcontent⟩ := hnode
  · exact absurd ⟨location, node, Disk.follow_of_find? hfind, hpassing⟩ haway
  · have hget : disk.get? location = some (.file serial) := by
      cases Disk.ends_of_follow hvisit with
      | final hget _ => exact hget
    obtain hsame | ⟨other, hmem, place, hplace⟩ := hchanged.files location serial hget
    · have hread : w₃.disk.read w₃.directory path = .ok page.toUTF8 := by
        rw [Disk.read_of_visit (Disk.follow_of_find? hfind), hsame]
        exact congrArg Except.ok hcontent
      rw [World.content, hzero, if_neg Bool.false_ne_true, hread]
      rfl
    · rw [← hdirectory] at hplace
      exact absurd hplace (helsewhere other hmem location place serial hfind)

/-- A page that can be removed again is removed. -/
theorem undone_iff (hsound : w.disk.Sound)
    (hmade : (World.host.createDirectories path).run w = (.ok (), w₁))
    (hpage : (World.host.writeText (Artifact.within path stamp).report page).run w₁ = (.ok (), w₂)) :
    let w₃ := ((World.host.remove (Artifact.within path stamp).report).run w₂).2
    w₃ = w.withDisk w₃.disk ∧
      (Disk.Changed w.directory [] w.disk w₃.disk ↔ ¬Overwrites w path stamp page) := by
  obtain ⟨hworld, hdirectories⟩ := made_of_run hmade
  have hsound₁ := World.sound_of_run_createDirectories hsound hmade
  have horigin : w₁.directory = w.directory := by rw [hworld]; rfl
  obtain ⟨_, hanswer, -⟩ | ⟨disk, -, hzero, hwrite, rfl⟩ := World.run_write_cases hpage
  · cases hanswer
  have hremove (disk' : Disk)
      (h : disk.remove w₁.directory (Artifact.within path stamp).report = .ok disk') :
      (World.host.remove (Artifact.within path stamp).report).run (w₁.withDisk disk) =
        (.ok (), w.withDisk disk') := by
    refine (World.run_change_of_ok hzero h).trans ?_
    rw [hworld]
    rfl
  by_cases htaken : w₁.disk.Taken w₁.directory (Artifact.within path stamp).report
  · obtain ⟨location, node, disk', hnode, hget, hlost, hmissing⟩ :=
      Disk.lost_of_taken htaken hwrite
    dsimp only
    rw [hremove disk' hlost]
    refine ⟨rfl, iff_of_false (fun hchanged => ?_) (not_not_intro ⟨w₁, _, hmade, htaken, hpage⟩)⟩
    -- what had the name was there before, and is not there any more
    obtain hold | hdirectory | ⟨_, hmem, _⟩ := hdirectories.fresh location node hget
    · cases hmissing.symm.trans (hchanged.kept location node hold)
    · exact hnode hdirectory
    · cases hmem
  · obtain ⟨disk', hundone, hchanged⟩ := Disk.undo_of_free hsound₁ htaken hwrite
    dsimp only
    rw [hremove disk' hundone]
    refine ⟨rfl, iff_of_true (hdirectories.trans (horigin ▸ hchanged)) ?_⟩
    rintro ⟨_, _, hmade', htaken', -⟩
    cases hmade.symm.trans hmade'
    exact htaken htaken'

/-- Both artifacts have their texts once both could be written. -/
theorem persisted_of_writes (hsound : w.disk.Sound)
    (hmade : (World.host.createDirectories path).run w = (.ok (), w₁))
    (hpage : (World.host.writeText (Artifact.within path stamp).report page).run w₁ = (.ok (), w₂))
    (hdocument : (World.host.writeText (Artifact.within path stamp).results document).run w₂ =
      (.ok (), w₃)) :
    Persisted w path stamp page document (.ok (Artifact.within path stamp)) w₃ := by
  obtain ⟨hworld, hdirectories⟩ := made_of_run hmade
  have hsound₁ := World.sound_of_run_createDirectories hsound hmade
  have hsound₂ := World.sound_of_run_write hsound₁ hpage
  have horigin : w₁.directory = w.directory := by rw [hworld]; rfl
  obtain ⟨_, hanswer, -⟩ | ⟨disk₂, -, -, hwrite, rfl⟩ := World.run_write_cases hpage
  · cases hanswer
  obtain ⟨_, hanswer, -⟩ | ⟨disk₃, -, -, hwrite', rfl⟩ := World.run_write_cases hdocument
  · cases hanswer
  have hpaged := Disk.write_changed hsound₁ hwrite
  have hfiled := Disk.write_changed hsound₂ hwrite'
  refine { world := by rw [hworld]; rfl, stored := ?_, undone := nofun }
  rintro artifact ⟨⟩
  refine ⟨rfl, (hdirectories.trans (horigin ▸ hpaged)).trans (horigin ▸ hfiled),
    fun hapart => ⟨?_, (World.content_of_run_write hsound₂ hdocument).resolve_right hapart.results⟩⟩
  exact content_of_write hsound₁ hpage hfiled rfl hapart.report fun other hother =>
    List.mem_singleton.mp hother ▸ hapart.different

end

/-- **Both artifacts or none**: if the sink answers with the artifacts, both have their
texts, as far as their paths lead to two files, and nothing else has changed. If it fails,
nothing has changed at all, but for directories, if and only if the page did not take the
name of something. -/
theorem persisted (w : World) (hsound : w.disk.Sound) (path stamp page document : String) :
    ∃ answer w', (directory World.host path stamp page document).run w = (answer, w') ∧
      Persisted w path stamp page document answer w' := by
  obtain ⟨answer, w', hrun⟩ : ∃ answer w',
    (directory World.host path stamp page document).run w = (answer, w') := ⟨_, _, rfl⟩
  refine ⟨answer, w', hrun, ?_⟩
  rw [run_directory] at hrun
  dsimp only at hrun
  split at hrun
  -- no directory, no page
  · rename_i e w₁ hmade
    cases hrun
    obtain ⟨hworld, hdirectories⟩ := made_of_run hmade
    refine .of_error hworld hdirectories ?_
    rintro ⟨_, _, hmade', -⟩
    cases hmade.symm.trans hmade'
  rename_i w₁ hmade
  obtain ⟨hworld, hdirectories⟩ := made_of_run hmade
  split at hrun
  -- the page cannot be written
  · rename_i e w₂ hpage
    cases hrun
    obtain ⟨_, -, rfl⟩ | ⟨_, hanswer, -⟩ := World.run_write_cases hpage
    · refine .of_error hworld hdirectories ?_
      rintro ⟨_, _, hmade', -, hpage'⟩
      cases hmade.symm.trans hmade'
      cases hpage.symm.trans hpage'
    · cases hanswer
  rename_i w₂ hpage
  split at hrun
  -- the document cannot be written
  · rename_i e w₃ hdocument
    cases hrun
    obtain ⟨_, -, rfl⟩ | ⟨_, hanswer, -⟩ := World.run_write_cases hdocument
    · obtain ⟨hworld', hundone⟩ := undone_iff hsound hmade hpage
      exact { world := hworld', stored := nofun, undone := fun _ _ => hundone }
    · cases hanswer
  · rename_i w₃ hdocument
    cases hrun
    exact persisted_of_writes hsound hmade hpage hdocument

/-- In an empty world the two artifacts are there under their names. -/
theorem persisted_fresh :
    (default : World).disk.Sound ∧ ∃ w', (directory World.host "results" "s" "page" "[]").run
        default = (.ok (Artifact.within "results" "s"), w') ∧
      w'.content "results/report_s.html" = .ok "page".toUTF8 ∧
      w'.content "results/results_s.json" = .ok "[]".toUTF8 := by
  have hsound : (default : World).disk.Sound := by decide
  have hanswer : ((directory World.host "results" "s" "page" "[]").run default).1 =
      .ok (Artifact.within "results" "s") := by decide +kernel
  have hreport : ((directory World.host "results" "s" "page" "[]").run default).2.disk.find? []
      "results/report_s.html" = some (["report_s.html", "results"], .file 0) := by decide +kernel
  have hresults : ((directory World.host "results" "s" "page" "[]").run default).2.disk.find? []
      "results/results_s.json" = some (["results_s.json", "results"], .file 1) := by
    decide +kernel
  obtain ⟨answer, w', hrun, hpersisted⟩ := persisted default hsound "results" "s" "page" "[]"
  rw [hrun] at hanswer hreport hresults
  obtain rfl : answer = .ok (Artifact.within "results" "s") := hanswer
  have horigin : w'.directory = [] := by rw [hpersisted.world]; rfl
  have hpaths : Artifact.within "results" "s" =
      ⟨"results/report_s.html", "results/results_s.json"⟩ := by decide +kernel
  obtain ⟨-, -, hcontents⟩ := hpersisted.stored _ rfl
  rw [hpaths] at hcontents
  have hfile {path : String} {l : Location} {serial : Nat}
      (hfind : w'.disk.find? [] path = some (l, .file serial)) : ¬w'.LeadsAway path := by
    rintro ⟨l', node, hfollow, hpassing⟩
    rw [horigin] at hfollow
    cases (Disk.find?_of_follow hfollow).symm.trans hfind
    cases hpassing
  refine ⟨hsound, w', hrun, hcontents ⟨hfile hreport, hfile hresults, ?_⟩⟩
  rw [horigin]
  intro l l' serial hl hl'
  cases hreport.symm.trans hl
  cases hresults.symm.trans hl'

/-- A world with a report of an earlier run and a directory where its results should be. -/
def reported : World :=
  (default : World).withDisk
    ⟨[(["results"], .directory), (["report_s.html", "results"], .file 0),
      (["results_s.json", "results"], .directory)], #[⟨"old".toUTF8, 0o644, 0⟩], [], 0⟩

/-- A report is lost although nothing new is stored. -/
theorem report_lost :
    reported.content "results/report_s.html" = .ok "old".toUTF8 ∧
    ∃ w', (directory World.host "results" "s" "new" "[]").run reported =
        (.error (.io (.system .isDirectory)), w') ∧
      w'.content "results/report_s.html" = .error (.system .notFound) := by
  have hbefore : reported.content "results/report_s.html" = .ok "old".toUTF8 := by decide +kernel
  have hanswer : ((directory World.host "results" "s" "new" "[]").run reported).1 =
      .error (.io (.system .isDirectory)) := by decide +kernel
  have hafter : ((directory World.host "results" "s" "new" "[]").run reported).2.content
      "results/report_s.html" = .error (.system .notFound) := by decide +kernel
  exact ⟨hbefore, _, Prod.ext hanswer rfl, hafter⟩

end Stopwatch.Sink
