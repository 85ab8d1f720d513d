import Stopwatch.Proofs.Host.Alike

/-!
# Deeds

What the program does to its host, in contrast to what it looks at, are its deeds: it starts processes,
writes and removes files, and makes directories. To speak about them, a host is *logged*: every deed is
written down with its answer, in order, next to the state, and nothing else changes.

- `Host.logged`: the same host with the deeds written down;
- `Does`: what an action does with its deeds written down is what it does without, and its answer and its
  deeds are as some condition says. Conditions of actions in sequence come from those of the actions
  (`Does.bind`, `DoesT.bind`);
- `Host.logged_looksAlike`: what only looks has no deeds.
-/

namespace Stopwatch

/-- Something that is done to a host, with the answer. -/
inductive Deed where
  | execute (call : Invocation) (answer : Except ProcessError Finished)
  | write (path : String) (bytes : ByteArray) (answer : Except IoError Unit)
  | remove (path : String) (answer : Except IoError Unit)
  | createDirectories (path : String) (answer : Except IoError Unit)

/-- Actions on a state with the deeds so far beside it. -/
abbrev Logged (σ : Type) := StateM (σ × List Deed)

variable {σ α β ε : Type}

namespace Logged

/-- An action that is no deed. -/
def quiet (act : StateM σ α) : Logged σ α := fun (s, log) =>
  let (a, s') := act s
  (a, s', log)

/-- An action that is a deed. -/
def noted (deed : α → Deed) (act : StateM σ α) : Logged σ α := fun (s, log) =>
  let (a, s') := act s
  (a, s', log ++ [deed a])

end Logged

/-- The host with the deeds written down. -/
def Host.logged (host : Host (StateM σ)) : Host (Logged σ) :=
  { host.mapM Logged.quiet with
    write path bytes := .noted (.write path bytes) (host.write path bytes)
    remove path := .noted (.remove path) (host.remove path)
    createDirectories path := .noted (.createDirectories path) (host.createDirectories path)
    execute call := .noted (.execute call) (host.execute call) }

/-- What only looks at a logged host has no deeds. -/
theorem Host.logged_looksAlike (host : Host (StateM σ)) (log : List Deed) :
    host.logged.LooksAlike (fun p s => p = (s, log)) host where
  monotonic := by rintro _ _ rfl; exact ⟨rfl, rfl⟩
  wall := by rintro _ _ rfl; exact ⟨rfl, rfl⟩
  status := by rintro _ _ rfl; exact ⟨rfl, rfl⟩
  machine := by rintro _ _ rfl; exact ⟨rfl, rfl⟩
  environment _ := by rintro _ _ rfl; exact ⟨rfl, rfl⟩
  read _ := by rintro _ _ rfl; exact ⟨rfl, rfl⟩
  isFile _ := by rintro _ _ rfl; exact ⟨rfl, rfl⟩
  isDirectory _ := by rintro _ _ rfl; exact ⟨rfl, rfl⟩
  canonical? _ := by rintro _ _ rfl; exact ⟨rfl, rfl⟩
  walk _ := by rintro _ _ rfl; exact ⟨rfl, rfl⟩

/-- What only looks at a host is the same where it is logged. -/
theorem logged_eq {act : Logged σ α} {plain : StateM σ α}
    (h : ∀ log, Alike (fun p s => p = (s, log)) act plain) {s s' : σ} {a : α} (hplain : plain s = (a, s'))
    (log : List Deed) : act (s, log) = (a, (s', log)) := by
  obtain ⟨hanswer, hstate⟩ := h log (s, log) s rfl
  rw [hplain] at hanswer hstate
  exact Prod.ext hanswer hstate

/-! ### What actions do -/

/-- With its deeds written down, the first action is the second one, and its answer and its deeds are as a
condition says. -/
def Does (act : Logged σ α) (plain : StateM σ α) (Q : α → List Deed → Prop) : Prop :=
  ∀ s, ∃ deeds, (∀ log, act (s, log) = ((plain s).1, (plain s).2, log ++ deeds)) ∧ Q (plain s).1 deeds

/-- The same of an action that may end the program; then the cause and the deeds are as another condition
says. -/
def DoesT (act : ExceptT ε (Logged σ) α) (plain : ExceptT ε (StateM σ) α) (Q : α → List Deed → Prop)
    (H : ε → List Deed → Prop) : Prop :=
  Does act.run plain.run fun
    | .ok a => Q a
    | .error e => H e

namespace Does

variable {act : Logged σ α} {plain : StateM σ α} {Q Q' : α → List Deed → Prop}

theorem mono (h : Does act plain Q) (hQ : ∀ a deeds, Q a deeds → Q' a deeds) : Does act plain Q' := by
  intro s
  obtain ⟨deeds, heq, hdeeds⟩ := h s
  exact ⟨deeds, heq, hQ _ _ hdeeds⟩

theorem pure {a : α} (h : Q a []) : Does (Pure.pure a : Logged σ α) (Pure.pure a) Q :=
  fun s => ⟨[], fun log => by rw [List.append_nil]; rfl, h⟩

/-- The deeds of two actions in sequence are those of the first and then those of the second. -/
theorem bind {f : α → Logged σ β} {g : α → StateM σ β} {Q' : β → List Deed → Prop} (h : Does act plain Q)
    (hf : ∀ a first, Q a first → Does (f a) (g a) fun b second => Q' b (first ++ second)) :
    Does (act >>= f) (plain >>= g) Q' := by
  intro s
  obtain ⟨first, hact, hfirst⟩ := h s
  obtain ⟨second, hnext, hsecond⟩ := hf _ first hfirst (plain s).2
  refine ⟨first ++ second, fun log => ?_, hsecond⟩
  show f (act (s, log)).1 (act (s, log)).2 = _
  rw [hact, ← List.append_assoc]
  exact hnext (log ++ first)

/-- After an action that only looks, and whose answer is one that the host gave, there are the deeds of the
next one. -/
theorem afterLooking {f : α → Logged σ β} {g : α → StateM σ β} {Q : β → List Deed → Prop}
    (h : ∀ log, Alike (fun p s => p = (s, log)) act plain)
    (hf : ∀ a, (∃ s s', plain s = (a, s')) → Does (f a) (g a) Q) : Does (act >>= f) (plain >>= g) Q := by
  intro s
  obtain ⟨deeds, hnext, hdeeds⟩ := hf (plain s).1 ⟨s, _, rfl⟩ (plain s).2
  refine ⟨deeds, fun log => ?_, hdeeds⟩
  show f (act (s, log)).1 (act (s, log)).2 = _
  rw [logged_eq h rfl log]
  exact hnext log

/-- So the answers of the action without its deeds are as the condition says of some deeds. -/
theorem gives (h : Does act plain Q) : Gives plain fun a => ∃ deeds, Q a deeds := by
  intro s
  obtain ⟨deeds, -, hdeeds⟩ := h s
  exact ⟨deeds, hdeeds⟩

theorem noted (deed : α → Deed) (plain : StateM σ α) :
    Does (Logged.noted deed plain) plain fun a deeds => deeds = [deed a] :=
  fun _ => ⟨_, fun _ => rfl, rfl⟩

end Does

namespace DoesT

variable {act : ExceptT ε (Logged σ) α} {plain : ExceptT ε (StateM σ) α} {Q : α → List Deed → Prop}
  {H : ε → List Deed → Prop}

theorem mono {Q' : α → List Deed → Prop} (h : DoesT act plain Q H)
    (hQ : ∀ a deeds, Q a deeds → Q' a deeds) : DoesT act plain Q' H :=
  Does.mono h fun
    | .ok a => hQ a
    | .error _ => fun _ => id

theorem pure {a : α} (h : Q a []) : DoesT (Pure.pure a : ExceptT ε (Logged σ) α) (Pure.pure a) Q H :=
  fun s => ⟨[], fun log => by rw [List.append_nil]; rfl, h⟩

theorem throw {e : ε} (h : H e []) :
    DoesT (MonadExcept.throw e : ExceptT ε (Logged σ) α) (MonadExcept.throw e) Q H :=
  fun s => ⟨[], fun log => by rw [List.append_nil]; rfl, h⟩

theorem afterLooking {act : Logged σ α} {plain : StateM σ α} {f : α → ExceptT ε (Logged σ) β}
    {g : α → ExceptT ε (StateM σ) β} {Q : β → List Deed → Prop}
    (h : ∀ log, Alike (fun p s => p = (s, log)) act plain)
    (hf : ∀ a, (∃ s s', plain s = (a, s')) → DoesT (f a) (g a) Q H) :
    DoesT (liftM act >>= f) (liftM plain >>= g) Q H := by
  show Does (ExceptT.lift act >>= f).run (ExceptT.lift plain >>= g).run _
  rw [ExceptT.run_bind_lift, ExceptT.run_bind_lift]
  exact Does.afterLooking h hf

theorem afterDeed {deed : α → Deed} {plain : StateM σ α} {f : α → ExceptT ε (Logged σ) β}
    {g : α → ExceptT ε (StateM σ) β} {Q : β → List Deed → Prop}
    (hf : ∀ a, DoesT (f a) (g a) (fun b deeds => Q b (deed a :: deeds))
      fun e deeds => H e (deed a :: deeds)) :
    DoesT (liftM (Logged.noted deed plain) >>= f) (liftM plain >>= g) Q H := by
  show Does (ExceptT.lift _ >>= f).run (ExceptT.lift plain >>= g).run _
  rw [ExceptT.run_bind_lift, ExceptT.run_bind_lift]
  refine (Does.noted deed plain).bind fun a first hfirst => Does.mono (hf a) fun answer second hsecond => ?_
  rw [hfirst]
  cases answer <;> exact hsecond

/-- Where the first action ends the program, there are only its deeds. -/
theorem bind {f : α → ExceptT ε (Logged σ) β} {g : α → ExceptT ε (StateM σ) β}
    {Q' : β → List Deed → Prop} {H' : ε → List Deed → Prop} (h : DoesT act plain Q H)
    (hH : ∀ e deeds, H e deeds → H' e deeds)
    (hf : ∀ a first, Q a first →
      DoesT (f a) (g a) (fun b second => Q' b (first ++ second)) fun e second => H' e (first ++ second)) :
    DoesT (act >>= f) (plain >>= g) Q' H' := by
  unfold DoesT
  rw [ExceptT.run_bind, ExceptT.run_bind]
  refine Does.bind h fun answer first hfirst => ?_
  cases answer with
  | ok a =>
    refine Does.mono (hf a first hfirst) fun result second hsecond => ?_
    cases result <;> exact hsecond
  | error e =>
    refine Does.pure ?_
    rw [List.append_nil]
    exact hH e first hfirst

end DoesT

end Stopwatch
