import Stopwatch.Proofs.Artifact.Names
import Stopwatch.Proofs.Artifact.Persistence
import Stopwatch.Proofs.System.OwnFiles

/-!
# Artifacts of many runs

Runs at different seconds put their artifacts into one directory, one after the other. No run takes
anything from another: the names of their artifacts differ, and a use of the sink changes only what its own
two paths lead to. Only where a name in the directory was a link, or another name of the same file, two
paths may lead to one place, and then the later text is there.

- `Deposit`, `Deposits`: uses of the sink, one after the other;
- `Adds`: what an action may do to the files of a world; `adds_of_write`, `adds_of_run`, `Deposits.adds`:
  which actions do no more;
- `stored_of_write`, `Deposits.stored`: what was written stays;
- `kept_of_deposits`: what many uses of the sink leave;
- `linked_report_replaced`: a report that is a link to that of another second.
-/

namespace Stopwatch.Sink

open Stopwatch.System (World Disk Location)

/-! ### Uses of the sink -/

/-- What a run gives to the sink, and when. -/
structure Deposit where
  moment : Moment
  page : String
  document : String

namespace Deposit

def reportName (d : Deposit) : String := Artifact.reportName d.moment.stamp

def resultsName (d : Deposit) : String := Artifact.resultsName d.moment.stamp

/-- The names of both artifacts. -/
def names (d : Deposit) : List String := Artifact.namesAt d.moment

/-- The paths of both artifacts in a directory. -/
def paths (path : String) (d : Deposit) : List String := d.names.map (Path.join path)

theorem reportName_mem_names (d : Deposit) : d.reportName ∈ d.names := List.mem_cons_self

theorem resultsName_mem_names (d : Deposit) : d.resultsName ∈ d.names :=
  List.mem_cons_of_mem _ (List.mem_singleton_self _)

/-- The names of artifacts stand for themselves in a path. -/
theorem isName_of_mem_names {d : Deposit} {n : String} (h : n ∈ d.names) : Path.IsName n := by
  have hslash := d.moment.slash_notMem_stamp
  obtain rfl | h := List.mem_cons.mp h
  · have hchars : (Artifact.reportName d.moment.stamp).toList =
        'r' :: ("eport_".toList ++ d.moment.stamp.toList ++ ".html".toList) := by
      rw [Artifact.reportName, String.toList_append, String.toList_append]
      rfl
    exact Path.isName_of_toList hchars (by decide) (by rw [hchars]; simp [hslash])
  · obtain rfl := List.mem_singleton.mp h
    have hchars : (Artifact.resultsName d.moment.stamp).toList =
        'r' :: ("esults_".toList ++ d.moment.stamp.toList ++ ".json".toList) := by
      rw [Artifact.resultsName, String.toList_append, String.toList_append]
      rfl
    exact Path.isName_of_toList hchars (by decide) (by rw [hchars]; simp [hslash])

end Deposit

/-- All these are put into one directory, in order, and the sink never fails. -/
inductive Deposits (path : String) : List Deposit → World → World → Prop where
  | nil (w : World) : Deposits path [] w w
  | cons {d : Deposit} {ds : List Deposit} {w w₁ w' : World} {artifact : Artifact}
    (hrun : (directory World.host path d.moment.stamp d.page d.document).run w = (.ok artifact, w₁))
    (hrest : Deposits path ds w₁ w') : Deposits path (d :: ds) w w'

/-! ### What they may change -/

/-- Files have changed where some paths lead, and nothing else but that there may be more directories;
names that had files of their own still have. -/
structure Adds (paths : List String) (w w' : World) : Prop where
  world : w' = w.withDisk w'.disk
  sound : w'.disk.Sound
  changed : Disk.Changed w.directory paths w.disk w'.disk
  own : ∀ location names, w.disk.OwnFiles location names → w'.disk.OwnFiles location names

namespace Adds

variable {paths more : List String} {w w₁ w' : World}

theorem refl (hsound : w.disk.Sound) : Adds [] w w := ⟨rfl, hsound, .refl _ _, fun _ _ h => h⟩

theorem directory_eq (h : Adds paths w w') : w'.directory = w.directory := by
  rw [h.world]
  rfl

theorem trans (h : Adds paths w w₁) (h' : Adds more w₁ w') : Adds (paths ++ more) w w' where
  world := by
    rw [h'.world, h.world]
    rfl
  sound := h'.sound
  changed := h.changed.trans (h.directory_eq ▸ h'.changed)
  own location names hown := h'.own location names (h.own location names hown)

end Adds

section
variable {w w₁ w₂ w' : World} {path stamp page document text : String}

theorem adds_of_createDirectories (hsound : w.disk.Sound)
    (h : (World.host.createDirectories path).run w = (.ok (), w')) : Adds [] w w' where
  world := (made_of_run h).1
  sound := World.sound_of_run_createDirectories hsound h
  changed := (made_of_run h).2
  own location names hown := by
    rw [World.run_createDirectories] at h
    split at h
    · cases h
    · obtain rfl := (Prod.mk.inj h).2
      exact hown.createDirectories w.directory path

theorem adds_of_write (hsound : w.disk.Sound)
    (h : (World.host.writeText path text).run w = (.ok (), w')) : Adds [path] w w' := by
  have hsound' := World.sound_of_run_write hsound h
  obtain ⟨_, hanswer, -⟩ | ⟨disk, -, -, hwrite, rfl⟩ := World.run_write_cases h
  · cases hanswer
  · exact ⟨rfl, hsound', Disk.write_changed hsound hwrite,
      fun location names hown => hown.write hsound hwrite⟩

/-- A use of the sink makes directories, and then it writes both artifacts under their names. -/
theorem writes_of_deposit (hsound : w.disk.Sound) {d : Deposit} {artifact : Artifact}
    (h : (directory World.host path d.moment.stamp d.page d.document).run w = (.ok artifact, w')) :
    ∃ w₁ w₂, Adds [] w w₁ ∧
      (World.host.writeText (Path.join path d.reportName) d.page).run w₁ = (.ok (), w₂) ∧
      (World.host.writeText (Path.join path d.resultsName) d.document).run w₂ = (.ok (), w') := by
  obtain ⟨hartifact, w₁, w₂, hmade, hpage, hdocument⟩ := writes_of_run h
  have hreport : artifact.report = Path.join path d.reportName := by
    rw [hartifact, Artifact.within, Deposit.reportName]
  have hresults : artifact.results = Path.join path d.resultsName := by
    rw [hartifact, Artifact.within, Deposit.resultsName]
  rw [hreport] at hpage
  rw [hresults] at hdocument
  exact ⟨w₁, w₂, adds_of_createDirectories hsound hmade, hpage, hdocument⟩

/-- A use of the sink changes only what its own two paths lead to. -/
theorem adds_of_run (hsound : w.disk.Sound) {d : Deposit} {artifact : Artifact}
    (h : (directory World.host path d.moment.stamp d.page d.document).run w = (.ok artifact, w')) :
    Adds (d.paths path) w w' := by
  obtain ⟨w₁, w₂, hdirectories, hpage, hdocument⟩ := writes_of_deposit hsound h
  have hreport := adds_of_write hdirectories.sound hpage
  have hresults := adds_of_write hreport.sound hdocument
  exact (hdirectories.trans hreport).trans hresults

theorem Deposits.adds {ds : List Deposit} (h : Deposits path ds w w') (hsound : w.disk.Sound) :
    Adds (ds.flatMap (Deposit.paths path)) w w' := by
  induction h with
  | nil w => exact .refl hsound
  | cons hrun _ ih =>
    have hfirst := adds_of_run hsound hrun
    rw [List.flatMap_cons]
    exact hfirst.trans (ih hfirst.sound)

/-! ### What they leave -/

/-- A directory has a file with a text under a name, and the text is read there. -/
structure Stored (w : World) (path : String) (location : Location) (name text : String) : Prop where
  entry : ∃ serial, w.disk.get? (name :: location) = some (.file serial) ∧
    (w.disk.file serial).content = text.toUTF8
  content : w.content (Path.join path name) = .ok text.toUTF8

variable {location : Location} {names : List String}

/-- Where something was written the path leads to a file, a device or a pipe. -/
theorem find?_of_write (hsound : w₁.disk.Sound)
    (hwrite : (World.host.writeText path text).run w₁ = (.ok (), w₂)) {later : List String}
    (hadds : Adds later w₂ w') : ∃ l node, w'.disk.find? w'.directory path = some (l, node) ∧
      (Disk.Passing node ∨ ∃ serial, node = .file serial) := by
  obtain ⟨_, hanswer, -⟩ | ⟨disk, -, -, hdisk, rfl⟩ := World.run_write_cases hwrite
  · cases hanswer
  obtain ⟨l, node, hvisit, hnode⟩ := Disk.leads_of_write hsound hdisk
  have hfind := hadds.changed.find? (Disk.find?_of_follow hvisit)
  rw [← hadds.directory_eq] at hfind
  exact ⟨l, node, hfind, hnode.imp_right fun ⟨serial, hfile, _⟩ => ⟨serial, hfile⟩⟩

/-- What was written under a name with a file of its own stays when other names are written. -/
theorem stored_of_write (hsound : w₁.disk.Sound) {n : String} (hn : Path.IsName n)
    (hmem : n ∈ names) (hwrite : (World.host.writeText (Path.join path n) text).run w₁ = (.ok (), w₂))
    {later : List String} (hadds : Adds later w₂ w')
    (hlater : ∀ other ∈ later, ∃ m ∈ names, m ≠ n ∧ Path.IsName m ∧ other = Path.join path m)
    (hbase : w'.disk.LeadsInto w'.directory path location)
    (hown : w'.disk.OwnFiles location names) : Stored w' path location n text := by
  obtain ⟨place, node, hfind, hnode⟩ := find?_of_write hsound hwrite hadds
  obtain ⟨rfl, hget⟩ := hown.find?_join hbase hmem hn hfind
  -- a name with a file of its own is not that of a device or a pipe
  obtain ⟨serial, rfl⟩ : ∃ serial, node = .file serial := by
    obtain hpassing | hfile := hnode
    · obtain rfl | hfile := hown.regular n hmem node hget
      · cases hpassing
      · exact hfile
    · exact hfile
  have haway : ¬w'.LeadsAway (Path.join path n) := by
    rintro ⟨l, node', hfollow, hpassing⟩
    cases (Disk.find?_of_follow hfollow).symm.trans hfind
    cases hpassing
  have hcontent : w'.content (Path.join path n) = .ok text.toUTF8 := by
    -- two names that lead to one file would both be names of it
    refine content_of_write hsound hwrite hadds.changed hadds.directory_eq haway ?_
    intro other hother l l' serial' hl hl'
    obtain ⟨m, hm, hne, hname, rfl⟩ := hlater other hother
    obtain ⟨-, hfile⟩ := hown.find?_join hbase hmem hn hl
    obtain ⟨-, hfile'⟩ := hown.find?_join hbase hm hname hl'
    exact hne (hown.single m hm n hmem serial' hfile' hfile)
  refine ⟨⟨serial, hget, ?_⟩, hcontent⟩
  have hread := Disk.read_of_visit (Disk.follow_of_find? hfind)
  unfold World.content at hcontent
  split at hcontent
  · cases hcontent
  · rw [hread] at hcontent
    exact Except.ok.inj hcontent

/-- What every one of them gave to the sink is there at the end. -/
theorem Deposits.stored {ds : List Deposit} (h : Deposits path ds w w') (hsound : w.disk.Sound)
    (hnodup : (ds.flatMap Deposit.names).Nodup) (hnames : ∀ d ∈ ds, ∀ n ∈ d.names, n ∈ names)
    (hbase : w'.disk.LeadsInto w'.directory path location)
    (hown : w'.disk.OwnFiles location names) :
    ∀ d ∈ ds, Stored w' path location d.reportName d.page ∧
      Stored w' path location d.resultsName d.document := by
  induction h with
  | nil _ => nofun
  | @cons d ds w w₁ w' artifact hrun hrest ih =>
    obtain ⟨w₂, w₃, hdirectories, hpage, hdocument⟩ := writes_of_deposit hsound hrun
    have hreport := adds_of_write hdirectories.sound hpage
    have hresults := adds_of_write hreport.sound hdocument
    have hothers := hrest.adds hresults.sound
    rw [List.flatMap_cons, List.nodup_append] at hnodup
    obtain ⟨hpair, hnodup, hdisjoint⟩ := hnodup
    obtain ⟨hmem, hnames⟩ := List.forall_mem_cons.mp hnames
    -- the paths of the others end in other names
    have hlater {n : String} (hn : n ∈ d.names) : ∀ other ∈ ds.flatMap (Deposit.paths path),
        ∃ m ∈ names, m ≠ n ∧ Path.IsName m ∧ other = Path.join path m := by
      intro other hother
      obtain ⟨e, he, hother⟩ := List.mem_flatMap.mp hother
      obtain ⟨m, hm, rfl⟩ := List.mem_map.mp hother
      exact ⟨m, hnames e he m hm, fun heq => hdisjoint n hn m (List.mem_flatMap.mpr ⟨e, he, hm⟩)
        heq.symm, Deposit.isName_of_mem_names hm, rfl⟩
    have hreportMem := d.reportName_mem_names
    have hresultsMem := d.resultsName_mem_names
    refine List.forall_mem_cons.mpr ⟨⟨?_, ?_⟩, ih hresults.sound hnodup hnames hbase hown⟩
    · refine stored_of_write hdirectories.sound (Deposit.isName_of_mem_names hreportMem)
        (hmem _ hreportMem) hpage (hresults.trans hothers) ?_ hbase hown
      refine List.forall_mem_append.mpr ⟨List.forall_mem_singleton.mpr ?_, hlater hreportMem⟩
      exact ⟨_, hmem _ hresultsMem, (Artifact.reportName_ne_resultsName _ _).symm,
        Deposit.isName_of_mem_names hresultsMem, rfl⟩
    · exact stored_of_write hreport.sound (Deposit.isName_of_mem_names hresultsMem)
        (hmem _ hresultsMem) hdocument hothers (hlater hresultsMem) hbase hown

/-- There is the directory at the end. -/
theorem Deposits.exists_leadsInto {ds : List Deposit} (h : Deposits path ds w w')
    (hsound : w.disk.Sound) (hne : ds ≠ []) :
    ∃ location, w'.disk.LeadsInto w'.directory path location := by
  cases h with
  | nil _ => exact absurd rfl hne
  | @cons d ds w w₁ w' artifact hrun hrest =>
    obtain ⟨w₂, w₃, hdirectories, hpage, hdocument⟩ := writes_of_deposit hsound hrun
    have hreport := adds_of_write hdirectories.sound hpage
    have hresults := adds_of_write hreport.sound hdocument
    obtain ⟨l, node, hfind, -⟩ :=
      find?_of_write hdirectories.sound hpage (hresults.trans (hrest.adds hresults.sound))
    have hname := Deposit.isName_of_mem_names d.reportName_mem_names
    obtain ⟨location, hbase, -⟩ :=
      Disk.exists_way_join hname.ne_empty hname.no_slash (Disk.follow_of_find? hfind)
    exact ⟨location, hbase⟩

/-- What many uses of the sink leave. -/
structure Kept (path : String) (ds : List Deposit) (w w' : World) : Prop where
  /-- The names of all artifacts differ. -/
  names_nodup : (ds.flatMap Deposit.names).Nodup
  /-- Only files and directories have changed. -/
  world : w' = w.withDisk w'.disk
  /-- All files are as they were but those that the paths of the artifacts lead to. -/
  changed : Disk.Changed w.directory (ds.flatMap (Deposit.paths path)) w.disk w'.disk
  /-- The directory has all artifacts with their own texts, if in it the names had files of
  their own or none at all. -/
  stored : ds ≠ [] → ∃ location, w'.disk.LeadsInto w'.directory path location ∧
    (w.disk.OwnFiles location (ds.flatMap Deposit.names) →
      ∀ d ∈ ds, Stored w' path location d.reportName d.page ∧
        Stored w' path location d.resultsName d.document)

/-- **Runs at different seconds take nothing from each other**: at the end the artifacts of
every run are there, and nothing else has changed. -/
theorem kept_of_deposits {ds : List Deposit} (h : Deposits path ds w w') (hsound : w.disk.Sound)
    (hseconds : (ds.map Deposit.moment).Pairwise fun m m' => m.toSecond ≠ m'.toSecond) :
    Kept path ds w w' := by
  have hadds := h.adds hsound
  have hnodup : (ds.flatMap Deposit.names).Nodup := by
    have hnames := Artifact.names_nodup hseconds
    rwa [List.flatMap_map] at hnames
  refine ⟨hnodup, hadds.world, hadds.changed, fun hne => ?_⟩
  obtain ⟨location, hbase⟩ := h.exists_leadsInto hsound hne
  refine ⟨location, hbase, fun hown => ?_⟩
  exact h.stored hsound hnodup (fun d hd n hn => List.mem_flatMap.mpr ⟨d, hd, hn⟩) hbase
    (hadds.own location _ hown)

end

/-! ### Runs in one directory -/

/-- The answer of the sink to a run, and the world after it. -/
def deposit (path : String) (d : Deposit) (w : World) : Except Fault Artifact × World :=
  (directory World.host path d.moment.stamp d.page d.document).run w

/-- Two runs, one after the other. -/
theorem deposits_pair {path : String} {d e : Deposit} {w : World} {artifact artifact' : Artifact}
    (h : (deposit path d w).1 = .ok artifact)
    (h' : (deposit path e (deposit path d w).2).1 = .ok artifact') :
    Deposits path [d, e] w (deposit path e (deposit path d w).2).2 :=
  .cons (Prod.ext h rfl) (.cons (Prod.ext h' rfl) (.nil _))

/-- A run of some second. -/
def firstRun : Deposit := ⟨⟨2026, 1, 2, 3, 4, 5, 999999999⟩, "first", "[1]"⟩

/-- A run of the second after it. -/
def secondRun : Deposit := ⟨⟨2026, 1, 2, 3, 4, 6, 0⟩, "second", "[2]"⟩

/-- A run ten thousand years later. -/
def lateRun : Deposit := ⟨⟨12026, 1, 2, 3, 4, 5, 0⟩, "late", "[3]"⟩

/-- In an empty world both runs keep their artifacts. -/
theorem kept_of_deposits_fresh :
    (default : World).disk.Sound ∧ ∃ w', Deposits "results" [firstRun, lateRun] default w' ∧
      w'.content "results/report_2026-01-02_03-04-05.html" = .ok "first".toUTF8 ∧
      w'.content "results/results_+12026-01-02_03-04-05.json" = .ok "[3]".toUTF8 := by
  have hsound : (default : World).disk.Sound := by decide
  have hfirst : (deposit "results" firstRun default).1 =
      .ok (Artifact.within "results" firstRun.moment.stamp) := by decide +kernel
  have hlate : (deposit "results" lateRun (deposit "results" firstRun default).2).1 =
      .ok (Artifact.within "results" lateRun.moment.stamp) := by decide +kernel
  have hdeposits := deposits_pair hfirst hlate
  have hkept := kept_of_deposits hdeposits hsound (by decide)
  obtain ⟨location, -, hstored⟩ := hkept.stored nofun
  have hown : (default : World).disk.OwnFiles location
      ([firstRun, lateRun].flatMap Deposit.names) := ⟨nofun, nofun⟩
  obtain ⟨⟨hreport, -⟩, hrest⟩ := List.forall_mem_cons.mp (hstored hown)
  obtain ⟨-, hresults⟩ := List.forall_mem_singleton.mp hrest
  have hreportPath : Path.join "results" firstRun.reportName =
      "results/report_2026-01-02_03-04-05.html" := by decide +kernel
  have hresultsPath : Path.join "results" lateRun.resultsName =
      "results/results_+12026-01-02_03-04-05.json" := by decide +kernel
  exact ⟨hsound, _, hdeposits, hreportPath ▸ hreport.content, hresultsPath ▸ hresults.content⟩

/-- A directory in which the name of a report is a link to that of the next second. -/
def linked : World :=
  (default : World).withDisk
    ⟨[(["results"], .directory), (["report_2026-01-02_03-04-05.html", "results"],
      .link "report_2026-01-02_03-04-06.html")], #[], [], 0⟩

/-- The report of the first run is replaced by that of the second. -/
theorem linked_report_replaced :
    linked.disk.Sound ∧ firstRun.moment.toSecond ≠ secondRun.moment.toSecond ∧
      ∃ w', Deposits "results" [firstRun, secondRun] linked w' ∧
        w'.content "results/report_2026-01-02_03-04-05.html" = .ok secondRun.page.toUTF8 ∧
        w'.content "results/report_2026-01-02_03-04-05.html" ≠ .ok firstRun.page.toUTF8 := by
  have hfirst : (deposit "results" firstRun linked).1 =
      .ok (Artifact.within "results" firstRun.moment.stamp) := by decide +kernel
  have hsecond : (deposit "results" secondRun (deposit "results" firstRun linked).2).1 =
      .ok (Artifact.within "results" secondRun.moment.stamp) := by decide +kernel
  have hcontent : (deposit "results" secondRun (deposit "results" firstRun linked).2).2.content
      "results/report_2026-01-02_03-04-05.html" = .ok secondRun.page.toUTF8 := by decide +kernel
  refine ⟨by decide, by decide, _, deposits_pair hfirst hsecond, hcontent, ?_⟩
  rw [hcontent]
  decide +kernel

end Stopwatch.Sink
