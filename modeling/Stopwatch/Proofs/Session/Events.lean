import Stopwatch.Session

/-!
# The events of a session

What others see of a run is which workloads it calls, with which outcome, and what it
hands to the sink. To speak about this, a session over any state is *watched*: every call
and every use of the sink is written down, in order, next to the state, and nothing else
changes.

- `Session.watched`: the same session with its events written down;
- `Session.turns`: the calls that a run without failures makes, each workload so many
  times in a row;
- `Visits`: an action makes the calls of some turns up to the first that fails. Actions in
  sequence visit their turns in sequence (`Visits.bind`), which is all that the loops of a
  run need;
- `VisitsT`: the same of an action that may end the program.
-/

namespace Stopwatch.Session

/-- A workload by the positions of its category and of itself within it. -/
structure Place where
  category : Nat
  workload : Nat
deriving DecidableEq, Repr

/-- What others see of a run. -/
inductive Event where
  | call (place : Place) (outcome : Except String Unit)
  | keep (stamp page document : String) (answer : Except Fault Artifact)

/-- Actions on a state with the events so far beside it. -/
abbrev Watched (σ : Type) := StateM (σ × List Event)

variable {σ α β ε : Type}

/-- An action that no event tells of. -/
def unseen (act : StateM σ α) : Watched σ α := fun (s, events) =>
  let (a, s') := act s
  (a, s', events)

/-- An action that one event tells of. -/
def seen (event : α → Event) (act : StateM σ α) : Watched σ α := fun (s, events) =>
  let (a, s') := act s
  (a, s', events ++ [event a])

/-- Every call of the workload is an event. -/
def watchedWorkload (place : Place) (w : Workload (StateM σ)) : Workload (Watched σ) :=
  { sampling := w.sampling, units := w.units, call := seen (.call place) w.call }

/-- Every call of a workload of the category is an event. -/
def watchedCategory (index : Nat) (c : Category (StateM σ)) : Category (Watched σ) :=
  { name := c.name, workloads := c.workloads.mapIdx fun i w => watchedWorkload ⟨index, i⟩ w }

/-- Every use of the sink is an event. -/
def watchedSink (sink : Sink (StateM σ)) : Sink (Watched σ) := fun stamp page document =>
  seen (.keep stamp page document) (sink stamp page document)

/-- The session with its events written down. -/
def watched (session : Session (StateM σ)) : Session (Watched σ) :=
  { settings := session.settings
    sampler := session.sampler
    sink := watchedSink session.sink
    categories := session.categories.mapIdx watchedCategory }

/-- The host, which no event tells of. -/
def watchedHost (host : Host (StateM σ)) : Host (Watched σ) := host.mapM unseen

/-! ### Turns -/

/-- The calls of one workload: warmup and timed calls, all in a row. -/
def workloadTurns (place : Place) (w : Workload (StateM σ)) : List Place :=
  List.replicate (w.sampling.warmup + w.sampling.iterations) place

/-- The calls of one category, its workloads in order. -/
def categoryTurns (index : Nat) (c : Category (StateM σ)) : List Place :=
  (c.workloads.mapIdx fun i w => workloadTurns ⟨index, i⟩ w).flatten

/-- The calls of a run without failures, in the order in which the categories were
registered. -/
def turns (categories : List (Category (StateM σ))) : List Place :=
  (categories.mapIdx categoryTurns).flatten

/-- The events of calls that all succeeded. -/
def passed (places : List Place) : List Event := places.map (.call · (.ok ()))

@[simp] theorem passed_nil : passed [] = [] := rfl

@[simp] theorem passed_append (ps qs : List Place) :
    passed (ps ++ qs) = passed ps ++ passed qs :=
  List.map_append

/-- Actions in sequence, once the outcome of the first is known. -/
theorem bind_apply {act : Watched σ α} {f : α → Watched σ β} {world world' : σ × List Event}
    {a : α} (h : act world = (a, world')) : (act >>= f) world = f a world' := by
  show (let p := act world; f p.1 p.2) = _
  rw [h]

/-! ### Unseen actions -/

/-- The action leaves the events alone. -/
def Unseen (act : Watched σ α) : Prop :=
  ∀ s events, ∃ a s', act (s, events) = (a, s', events)

theorem Unseen.unseen (act : StateM σ α) : Unseen (Session.unseen act) :=
  fun s _ => ⟨(act s).1, (act s).2, rfl⟩

theorem Unseen.pure (a : α) : Unseen (pure a : Watched σ α) := fun s _ => ⟨a, s, rfl⟩

theorem Unseen.bind {act : Watched σ α} {f : α → Watched σ β} (h : Unseen act)
    (hf : ∀ a, Unseen (f a)) : Unseen (act >>= f) := by
  intro s events
  obtain ⟨a, s₁, h₁⟩ := h s events
  obtain ⟨b, s₂, h₂⟩ := hf a s₁ events
  exact ⟨b, s₂, (bind_apply h₁).trans h₂⟩

/-! ### Visits -/

/-- The action makes the calls of `places` in turn, up to the first that fails. If none
does, its value is `good`; if one does, its error is `bad` for the place of that call and
its message. -/
def Visits (places : List Place) (good : α → Prop) (bad : Place → String → ε → Prop)
    (act : Watched σ (Except ε α)) : Prop :=
  ∀ s events,
    (∃ a s', act (s, events) = (.ok a, s', events ++ passed places) ∧ good a) ∨
    (∃ done place rest message e s', places = done ++ place :: rest ∧
      act (s, events) =
        (.error e, s', events ++ passed done ++ [.call place (.error message)]) ∧
      bad place message e)

variable {ps qs : List Place} {good : α → Prop} {good' : β → Prop} {δ : Type}
  {bad : Place → String → ε → Prop} {bad' : Place → String → δ → Prop}

theorem Visits.pure {a : α} (h : good a) :
    Visits (σ := σ) [] good bad (pure (.ok a)) := by
  intro s events
  refine .inl ⟨a, s, ?_, h⟩
  rw [passed_nil, List.append_nil]
  rfl

/-- One watched call is a visit of its place, and its error is the message of the failure. -/
theorem visits_call (place : Place) (w : Workload (StateM σ)) :
    Visits [place] (fun _ => True) (fun p message e => p = place ∧ e = message)
      (watchedWorkload place w).call := by
  intro s events
  show (∃ a s',
      ((w.call s).1, (w.call s).2, events ++ [Event.call place (w.call s).1]) = _ ∧ _) ∨ _
  rcases hcall : w.call s with ⟨outcome, s'⟩
  cases outcome with
  | ok a => exact .inl ⟨a, s', rfl, trivial⟩
  | error message =>
    refine .inr ⟨[], place, [], message, message, s', rfl, ?_, rfl, rfl⟩
    show seen (Event.call place) w.call (s, events) = _
    rw [seen, hcall, passed_nil, List.append_nil]

/-- An unseen action in front does not count. -/
theorem Unseen.visits {act : Watched σ β} {f : β → Watched σ (Except ε α)} (h : Unseen act)
    (hf : ∀ b, Visits ps good bad (f b)) : Visits ps good bad (act >>= f) := by
  intro s events
  obtain ⟨b, s₁, h₁⟩ := h s events
  rw [bind_apply h₁]
  exact hf b s₁ events

/-- Actions in sequence visit their places in sequence, provided that the second part
makes no calls after an error of the first, and ends in an error too. -/
theorem Visits.bind {act : Watched σ (Except ε α)} {f : Except ε α → Watched σ (Except δ β)}
    (h : Visits ps good bad act) (hok : ∀ a, good a → Visits qs good' bad' (f (.ok a)))
    (herror : ∀ p message e, bad p message e → ∀ s events, ∃ d s',
      f (.error e) (s, events) = (.error d, s', events) ∧ bad' p message d) :
    Visits (ps ++ qs) good' bad' (act >>= f) := by
  intro s events
  rcases h s events with ⟨a, s₁, h₁, ha⟩ | ⟨done, p, rest, message, e, s₁, hps, h₁, he⟩
  -- the first part ended well: the second one goes on from its events
  · rw [bind_apply h₁]
    rcases hok a ha s₁ (events ++ passed ps) with
      ⟨b, s₂, h₂, hb⟩ | ⟨done, p, rest, message, d, s₂, hqs, h₂, hd⟩
    · refine .inl ⟨b, s₂, ?_, hb⟩
      rw [h₂, passed_append, List.append_assoc]
    · refine .inr ⟨ps ++ done, p, rest, message, d, s₂, ?_, ?_, hd⟩
      · rw [hqs, List.append_assoc]
      · rw [h₂, passed_append, List.append_assoc events]
  -- the first part failed: the places of the second one are not reached
  · obtain ⟨d, s₂, hf, hd⟩ :=
      herror p message e he s₁ (events ++ passed done ++ [.call p (.error message)])
    refine .inr ⟨done, p, rest ++ qs, message, d, s₂, ?_, ?_, hd⟩
    · rw [hps, List.append_assoc, List.cons_append]
    · rw [bind_apply h₁, hf]

/-! ### Visits that may end the program -/

/-- The action makes the calls of `places` in turn, up to the first that fails, as before. It
may also end the program, which has `halted` then, after some calls that all succeeded. -/
def VisitsT (places : List Place) (good : α → Prop) (bad : Place → String → ε → Prop)
    (halted : List Place → Halt → Prop) (act : ExceptT Halt (Watched σ) (Except ε α)) : Prop :=
  ∀ s events,
    (∃ a s', act.run (s, events) = (.ok (.ok a), s', events ++ passed places) ∧ good a) ∨
    (∃ done place rest message e s', places = done ++ place :: rest ∧
      act.run (s, events) =
        (.ok (.error e), s', events ++ passed done ++ [.call place (.error message)]) ∧
      bad place message e) ∨
    (∃ done rest h s', places = done ++ rest ∧
      act.run (s, events) = (.error h, s', events ++ passed done) ∧ halted done h)

variable {halted halted' : List Place → Halt → Prop}

theorem VisitsT.pure {a : α} (h : good a) :
    VisitsT (σ := σ) [] good bad halted (pure (.ok a)) := by
  intro s events
  refine .inl ⟨a, s, ?_, h⟩
  rw [passed_nil, List.append_nil]
  rfl

/-- What cannot end the program does not. -/
theorem Visits.lift {act : Watched σ (Except ε α)} (h : Visits ps good bad act) :
    VisitsT ps good bad (fun _ _ => False) (liftM act : ExceptT Halt (Watched σ) (Except ε α)) := by
  intro s events
  have hrun {answer : Except ε α} {world : σ × List Event} (heq : act (s, events) = (answer, world)) :
      (liftM act : ExceptT Halt (Watched σ) (Except ε α)).run (s, events) = (.ok answer, world) := by
    show (Except.ok (act (s, events)).1, (act (s, events)).2) = _
    rw [heq]
  rcases h s events with ⟨a, s', h', ha⟩ | ⟨done, p, rest, message, e, s', hps, h', he⟩
  · exact .inl ⟨a, s', hrun h', ha⟩
  · exact .inr (.inl ⟨done, p, rest, message, e, s', hps, hrun h', he⟩)

/-- Actions in sequence, once the first has ended the program. -/
theorem bindT_apply_error {act : ExceptT Halt (Watched σ) β} {f : β → ExceptT Halt (Watched σ) α}
    {world world' : σ × List Event} {h : Halt} (heq : act.run world = (.error h, world')) :
    (act >>= f).run world = (.error h, world') := by
  rw [ExceptT.run_bind, bind_apply heq]
  rfl

/-- Actions in sequence, once it has not. -/
theorem bindT_apply_ok {act : ExceptT Halt (Watched σ) β} {f : β → ExceptT Halt (Watched σ) α}
    {world world' : σ × List Event} {b : β} (heq : act.run world = (.ok b, world')) :
    (act >>= f).run world = (f b).run world' := by
  rw [ExceptT.run_bind, bind_apply heq]

/-- An unseen action in front does not count, and may end the program before the first call. -/
theorem VisitsT.afterUnseen {act : ExceptT Halt (Watched σ) β}
    {f : β → ExceptT Halt (Watched σ) (Except ε α)} (h : Unseen act.run)
    (hhalted : ∀ world e, (act.run world).1 = .error e → halted [] e)
    (hf : ∀ world b, (act.run world).1 = .ok b → VisitsT ps good bad halted (f b)) :
    VisitsT ps good bad halted (act >>= f) := by
  intro s events
  obtain ⟨answer, s₁, h₁⟩ := h s events
  cases answer with
  | ok b =>
    rw [bindT_apply_ok h₁]
    exact hf (s, events) b (by rw [h₁]) s₁ events
  | error e =>
    refine .inr (.inr ⟨[], ps, e, s₁, rfl, ?_, hhalted (s, events) e (by rw [h₁])⟩)
    rw [bindT_apply_error h₁, passed_nil, List.append_nil]

/-- Actions in sequence visit their places in sequence. -/
theorem VisitsT.bind {act : ExceptT Halt (Watched σ) (Except ε α)}
    {f : Except ε α → ExceptT Halt (Watched σ) (Except δ β)} (h : VisitsT ps good bad halted act)
    (hok : ∀ a, good a →
      VisitsT qs good' bad' (fun done e => halted' (ps ++ done) e) (f (.ok a)))
    (herror : ∀ p message e, bad p message e →
      ∃ d, f (.error e) = Pure.pure (.error d) ∧ bad' p message d)
    (hhalted : ∀ done e, halted done e → halted' done e) :
    VisitsT (ps ++ qs) good' bad' halted' (act >>= f) := by
  intro s events
  rcases h s events with ⟨a, s₁, h₁, ha⟩ | ⟨done, p, rest, message, e, s₁, hps, h₁, he⟩ |
    ⟨done, rest, e, s₁, hps, h₁, he⟩
  -- the first part ended well: the second one goes on from its events
  · rw [bindT_apply_ok h₁]
    rcases hok a ha s₁ (events ++ passed ps) with
      ⟨b, s₂, h₂, hb⟩ | ⟨done, p, rest, message, d, s₂, hqs, h₂, hd⟩ | ⟨done, rest, e, s₂, hqs, h₂, he⟩
    · refine .inl ⟨b, s₂, ?_, hb⟩
      rw [h₂, passed_append, List.append_assoc]
    · refine .inr (.inl ⟨ps ++ done, p, rest, message, d, s₂, ?_, ?_, hd⟩)
      · rw [hqs, List.append_assoc]
      · rw [h₂, passed_append, List.append_assoc events]
    · refine .inr (.inr ⟨ps ++ done, rest, e, s₂, ?_, ?_, he⟩)
      · rw [hqs, List.append_assoc]
      · rw [h₂, passed_append, List.append_assoc]
  -- a call failed: the places of the second part are not reached
  · obtain ⟨d, hf, hd⟩ := herror p message e he
    refine .inr (.inl ⟨done, p, rest ++ qs, message, d, s₁, ?_, ?_, hd⟩)
    · rw [hps, List.append_assoc, List.cons_append]
    · rw [bindT_apply_ok h₁, hf]
      rfl
  -- nor are they if the program has ended
  · refine .inr (.inr ⟨done, rest ++ qs, e, s₁, ?_, bindT_apply_error h₁, hhalted done e he⟩)
    rw [hps, List.append_assoc]

end Stopwatch.Session
