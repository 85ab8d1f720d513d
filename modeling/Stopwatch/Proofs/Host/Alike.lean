import Stopwatch.Discovery
import Stopwatch.Session

/-!
# Alike hosts

Two hosts are alike for a relation between their states if each of their actions gives the same answer on
both and keeps the relation. What the program does on alike hosts is alike again, as it sees nothing of a
host but its answers. There is one lemma for each part of the program that looks around or runs engines.

- `Gives`: all answers of an action satisfy some condition;
- `Alike`: two actions with the same answer that keep a relation;
- `Host.LooksAlike`: the same of all actions of two hosts that look at something;
- `Host.RunsAlike`: and of the start of processes.
-/

namespace Stopwatch

variable {σ τ α β ε : Type} {R : σ → τ → Prop}

theorem run_bind_of_eq {act : StateM σ α} {s s' : σ} {a : α} (h : act s = (a, s'))
    (f : α → StateM σ β) : (act >>= f) s = f a s' := by
  show f (act s).1 (act s).2 = f a s'
  rw [h]

theorem run_lift_bind_of_eq {act : StateM σ α} {s s' : σ} {a : α} (h : act s = (a, s'))
    (f : α → ExceptT ε (StateM σ) β) : (liftM act >>= f : ExceptT ε (StateM σ) β).run s = (f a).run s' := by
  show (ExceptT.lift act >>= f).run s = _
  rw [ExceptT.run_bind_lift]
  exact run_bind_of_eq h _

theorem of_run_lift_eq_ok {act : StateM σ α} {s s' : σ} {a : α}
    (h : (liftM act : ExceptT ε (StateM σ) α).run s = (.ok a, s')) : act s = (a, s') := by
  obtain ⟨hanswer, hstate⟩ := Prod.ext_iff.mp h
  exact Prod.ext (Except.ok.inj hanswer) hstate

/-- A sequence that did not end the program went through its first part. -/
theorem of_run_bind_eq_ok {act : ExceptT ε (StateM σ) α} {f : α → ExceptT ε (StateM σ) β} {s s' : σ}
    {b : β} (h : (act >>= f).run s = (.ok b, s')) :
    ∃ a s₁, act.run s = (.ok a, s₁) ∧ (f a).run s₁ = (.ok b, s') := by
  obtain ⟨answer, s₁, hact⟩ : ∃ answer s₁, act.run s = (answer, s₁) := ⟨_, _, rfl⟩
  rw [ExceptT.run_bind, run_bind_of_eq hact] at h
  cases answer with
  | ok a => exact ⟨a, s₁, hact, h⟩
  | error e => cases h

/-! ### Answers -/

/-- All answers of an action satisfy some condition. -/
def Gives (act : StateM σ α) (P : α → Prop) : Prop := ∀ s, P (act s).1

namespace Gives

variable {P : α → Prop} {Q : β → Prop}

theorem any (act : StateM σ α) : Gives act fun _ => True := fun _ => trivial

theorem pure {a : α} (h : P a) : Gives (Pure.pure a : StateM σ α) P := fun _ => h

theorem bind {act : StateM σ α} {f : α → StateM σ β} (h : Gives act P)
    (hf : ∀ a, P a → Gives (f a) Q) : Gives (act >>= f) Q :=
  fun s => hf _ (h s) _

theorem afterAny {act : StateM σ α} {f : α → ExceptT ε (StateM σ) β} {P : Except ε β → Prop}
    (hf : ∀ a, Gives (f a).run P) : Gives (liftM act >>= f : ExceptT ε (StateM σ) β).run P := by
  show Gives (ExceptT.lift act >>= f).run P
  rw [ExceptT.run_bind_lift]
  exact (any act).bind fun a _ => hf a

theorem bindT {act : ExceptT ε (StateM σ) α} {f : α → ExceptT ε (StateM σ) β} {P : Except ε α → Prop}
    {Q : Except ε β → Prop} (h : Gives act.run P) (he : ∀ e, P (.error e) → Q (.error e))
    (hf : ∀ a, P (.ok a) → Gives (f a).run Q) : Gives (act >>= f).run Q := by
  rw [ExceptT.run_bind]
  refine h.bind fun answer hanswer => ?_
  cases answer with
  | ok a => exact hf a hanswer
  | error e => exact pure (he e hanswer)

end Gives

/-! ### Alike actions -/

/-- Two actions give the same answer and keep a relation between their states. -/
def Alike (R : σ → τ → Prop) (act : StateM σ α) (act' : StateM τ α) : Prop :=
  ∀ s t, R s t → (act s).1 = (act' t).1 ∧ R (act s).2 (act' t).2

namespace Alike

theorem pure (a : α) : Alike R (Pure.pure a) (Pure.pure a) := fun _ _ h => ⟨rfl, h⟩

theorem bind {act : StateM σ α} {act' : StateM τ α} {f : α → StateM σ β} {f' : α → StateM τ β}
    (h : Alike R act act') (hf : ∀ a, Alike R (f a) (f' a)) : Alike R (act >>= f) (act' >>= f') := by
  intro s t hst
  obtain ⟨hanswer, hstate⟩ := h s t hst
  -- the second sequence goes on with the answer of the first
  show (f (act s).1 (act s).2).1 = (f' (act' t).1 (act' t).2).1 ∧
    R (f (act s).1 (act s).2).2 (f' (act' t).1 (act' t).2).2
  rw [← hanswer]
  exact hf _ _ _ hstate

/-! ### Actions that may end the program -/

theorem lift {act : StateM σ α} {act' : StateM τ α} (h : Alike R act act') :
    Alike R (liftM act : ExceptT ε (StateM σ) α).run (liftM act' : ExceptT ε (StateM τ) α).run := by
  intro s t hst
  obtain ⟨hanswer, hstate⟩ := h s t hst
  exact ⟨congrArg Except.ok hanswer, hstate⟩

theorem bindT {act : ExceptT ε (StateM σ) α} {act' : ExceptT ε (StateM τ) α}
    {f : α → ExceptT ε (StateM σ) β} {f' : α → ExceptT ε (StateM τ) β} (h : Alike R act.run act'.run)
    (hf : ∀ a, Alike R (f a).run (f' a).run) : Alike R (act >>= f).run (act' >>= f').run := by
  rw [ExceptT.run_bind, ExceptT.run_bind]
  refine h.bind fun answer => ?_
  cases answer with
  | ok a => exact hf a
  | error e => exact pure _

theorem times {act : ExceptT ε (StateM σ) α} {act' : ExceptT ε (StateM τ) α}
    (hact : Alike R act.run act'.run) (n : Nat) :
    Alike R (Batch.times act n).run (Batch.times act' n).run := by
  induction n with
  | zero => exact .pure _
  | succ n ih => exact hact.bindT fun _ => ih.bindT fun _ => .pure _

theorem each {act : α → ExceptT ε (StateM σ) β} {act' : α → ExceptT ε (StateM τ) β}
    (hact : ∀ a, Alike R (act a).run (act' a).run) (as : List α) :
    Alike R (Batch.each act as).run (Batch.each act' as).run := by
  induction as with
  | nil => exact .pure _
  | cons a as ih => exact (hact a).bindT fun _ => ih.bindT fun _ => .pure _

end Alike

/-! ### Looking around -/

/-- The actions that look at something are alike. -/
structure Host.LooksAlike (R : σ → τ → Prop) (host : Host (StateM σ)) (host' : Host (StateM τ)) :
    Prop where
  monotonic : Alike R host.monotonic host'.monotonic
  wall : Alike R host.wall host'.wall
  status : Alike R host.status host'.status
  machine : Alike R host.machine host'.machine
  environment (name : String) : Alike R (host.environment name) (host'.environment name)
  read (path : String) : Alike R (host.read path) (host'.read path)
  isFile (path : String) : Alike R (host.isFile path) (host'.isFile path)
  isDirectory (path : String) : Alike R (host.isDirectory path) (host'.isDirectory path)
  canonical? (path : String) : Alike R (host.canonical? path) (host'.canonical? path)
  walk (path : String) : Alike R (host.walk path) (host'.walk path)

variable {host : Host (StateM σ)} {host' : Host (StateM τ)}

namespace Host.LooksAlike

variable (h : host.LooksAlike R host')
include h

theorem readText (path : String) : Alike R (host.readText path) (host'.readText path) := by
  refine (h.read path).bind fun answer => ?_
  cases answer <;> exact .pure _

theorem load (path : String) : Alike R (Suite.load host path) (Suite.load host' path) := by
  refine (h.readText path).bind fun answer => ?_
  cases answer <;> exact .pure _

theorem discover (directory : String) (extensions : List String) :
    Alike R (Discovery.discover host directory extensions)
      (Discovery.discover host' directory extensions) := by
  refine (h.isDirectory directory).bind fun answer => ?_
  cases answer
  · exact .pure _
  · exact (h.walk directory).bind fun _ => .pure _

theorem suiteFiles (source : WorkloadSource) :
    Alike R (source.suiteFiles host) (source.suiteFiles host') := by
  unfold WorkloadSource.suiteFiles
  cases source.suite with
  | none => exact .pure _
  | some path =>
    refine (h.load path).bind fun answer => ?_
    cases answer <;> exact .pure _

theorem foundFiles (source : WorkloadSource) :
    Alike R (source.foundFiles host) (source.foundFiles host') := by
  unfold WorkloadSource.foundFiles
  cases source.directory with
  | none => exact .pure _
  | some directory => exact h.discover directory _

theorem resolve (source : WorkloadSource) : Alike R (source.resolve host) (source.resolve host') := by
  refine (h.suiteFiles source).bind fun listed => ?_
  cases listed with
  | error e => exact .pure _
  | ok listed =>
    refine (h.foundFiles source).bind fun found => ?_
    cases found <;> exact .pure _

theorem firstFile (paths : List String) :
    Alike R (Engine.firstFile host paths) (Engine.firstFile host' paths) := by
  induction paths with
  | nil => exact .pure _
  | cons path paths ih =>
    refine (h.isFile path).bind fun answer => ?_
    cases answer
    · exact ih
    · exact .pure _

theorem locate (engine : Engine) : Alike R (engine.locate host) (engine.locate host') := by
  refine (h.environment _).bind fun search => (h.firstFile _).bind fun found => ?_
  cases found with
  | none => exact .pure _
  | some path => exact (h.canonical? path).bind fun _ => .pure _

theorem fingerprint? (file : String) :
    Alike R (Stopwatch.fingerprint? host file) (Stopwatch.fingerprint? host' file) := by
  refine (h.read file).bind fun answer => ?_
  cases answer <;> exact .pure _

theorem captureEnvironment (profile : Profile) :
    Alike R (Session.captureEnvironment host profile) (Session.captureEnvironment host' profile) :=
  (h.environment _).bind fun _ => (h.environment _).bind fun _ => h.machine.bind fun _ => .pure _

theorem currentMoment : Alike R (Session.currentMoment host) (Session.currentMoment host') :=
  h.wall.bind fun _ => .pure _

end Host.LooksAlike

/-! ### Running engines -/

/-- The actions that look at something or start a process are alike. -/
structure Host.RunsAlike (R : σ → τ → Prop) (host : Host (StateM σ)) (host' : Host (StateM τ)) : Prop
    extends host.LooksAlike R host' where
  execute (call : Invocation) : Alike R (host.execute call) (host'.execute call)

namespace Host.RunsAlike

variable (h : host.RunsAlike R host')
include h

theorem runLocated (engine : LocatedEngine) (limit : Option Nat) (file : String) :
    Alike R (engine.run host limit file).run (engine.run host' limit file).run := by
  refine (h.fingerprint? file).lift.bindT fun fingerprint => ?_
  refine (h.canonical? file).lift.bindT fun target => ?_
  refine h.monotonic.lift.bindT fun start => ?_
  refine (h.execute _).lift.bindT fun outcome => ?_
  dsimp only
  split
  · exact .pure _
  · exact .pure _

theorem run (engine : Engine) (limit : Option Nat) (file : String) :
    Alike R (engine.run host limit file).run (engine.run host' limit file).run := by
  refine (h.locate engine).lift.bindT fun located => ?_
  cases located with
  | error e => exact .pure _
  | ok located => exact h.runLocated located limit file

theorem version (engine : LocatedEngine) : Alike R (engine.version host) (engine.version host') := by
  refine (h.execute _).bind fun answer => ?_
  cases answer with
  | error e => exact .pure _
  | ok f =>
    dsimp only
    split <;> exact .pure _

theorem compareAll (batch : Batch) (files : List String) :
    Alike R (batch.compareAll host files).run (batch.compareAll host' files).run :=
  Alike.each (fun file => (Alike.times (h.run batch.candidate _ file) _).bindT fun _ =>
    (Alike.times (h.run batch.baseline _ file) _).bindT fun _ => .pure _) files

theorem baselineAll (settings : RunSettings) (engine : LocatedEngine) (files : List String) :
    Alike R (Batch.baselineAll host settings engine files).run
      (Batch.baselineAll host' settings engine files).run :=
  Alike.each (fun file => (Alike.times (h.runLocated engine _ file) _).bindT fun _ => .pure _) files

theorem contestVersion (engine : Option Engine) :
    Alike R (Contest.version host engine) (Contest.version host' engine) := by
  cases engine with
  | none => exact .pure _
  | some engine =>
    refine (h.locate engine).bind fun located => ?_
    cases located with
    | error e => exact .pure _
    | ok located => exact h.version located

theorem contestRuns (contest : Contest) (baseline : LocatedEngine) :
    Alike R (contest.runs host baseline).run (contest.runs host' baseline).run := by
  unfold Contest.runs
  cases contest.candidate with
  | none => exact h.baselineAll _ baseline _
  | some candidate => exact h.compareAll _ _

theorem hold (contest : Contest) : Alike R (contest.hold host).run (contest.hold host').run := by
  unfold Contest.hold
  split
  · exact .pure _
  refine (h.locate contest.baseline).lift.bindT fun located => ?_
  cases located with
  | error e => exact .pure _
  | ok baseline =>
    refine (h.version baseline).lift.bindT fun _ => (h.contestVersion _).lift.bindT fun _ => ?_
    split
    · exact .pure _
    · exact (h.contestRuns contest baseline).bindT fun _ => .pure _

end Host.RunsAlike

end Stopwatch
