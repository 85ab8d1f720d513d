import Stopwatch.CommandLine.Arguments

/-!
# Scanning options

Options can stand in front of a command or behind it. What is read of them is the same, as long as both
levels know them and no argument ends the options.

- `Covers`: a level that knows all options of another one, the version apart;
- `scanFrom_append`: options in front of a command;
- `scanFrom_of_covers`: options at a level that knows more of them;
- `given_of_scan`: what is given has the names of options of the level.
-/

namespace Stopwatch.CommandLine.Level

variable {outer inner level : Level} {so so' : Scanned}

/-! ### One option -/

/-- What is added, and that the level has no say in it. -/
theorem add_cases {isLong : Bool} {switch : Switch} {value : String}
    (h : level.add isLong switch value so = .ok so') :
    so' = { so with given := so.given ++ [(switch.name, value)] } ∧
      switch.name ≠ helpSwitch.name ∧ switch.name ≠ versionSwitch.name ∧
      ∀ other : Level, other.add isLong switch value so = .ok so' := by
  unfold add at h ⊢
  split at h
  · cases h
  rename_i hhelp
  split at h
  · cases h
  rename_i hversion
  split at h
  · cases h
  rename_i hrepeated
  split at h
  · cases h
  cases h
  refine ⟨rfl, hhelp, hversion, fun other => ?_⟩
  rw [if_neg hhelp, if_neg hversion, if_neg hrepeated]

/-- The inner level knows every option of the outer one. Only the version may be asked for at the outer
level alone, which ends the reading. -/
structure Covers (outer inner : Level) : Prop where
  name : ∀ {n : String} {s : Switch},
    outer.byName? n = some s → inner.byName? n = some s ∨ s = versionSwitch
  letter : ∀ {c : Char} {s : Switch},
    outer.byLetter? c = some s → inner.byLetter? c = some s ∨ s = versionSwitch

theorem Covers.refl (level : Level) : Covers level level := ⟨.inl, .inl⟩

theorem add_done {isLong : Bool} {switch : Switch} {value : String} {reading : Reading}
    (h : (outer.add isLong switch value so).map Reading.done = .ok reading) (inner : Level) :
    (inner.add isLong switch value so).map Reading.done = .ok reading := by
  cases hadd : outer.add isLong switch value so with
  | error e => rw [hadd] at h; cases h
  | ok so₁ => rw [(add_cases hadd).2.2.2 inner, ← h, hadd]

theorem readLong_of_covers (hcovers : Covers outer inner) {text : List Char} {rest : List String}
    {reading : Reading} (h : outer.readLong text rest so = .ok reading) (rest' : List String) :
    inner.readLong text rest' so = .ok reading := by
  unfold readLong at h ⊢
  dsimp only at h ⊢
  split at h
  · -- the option with a value behind the equals sign
    rename_i switch value hname hvalue
    rcases hcovers.name hname with hname' | rfl
    · rw [hname', hvalue]
      dsimp only
      split at h
      · rename_i htakes
        rw [if_pos htakes]
        exact add_done h inner
      · cases h
    · cases h
  · rename_i switch hname hvalue
    rcases hcovers.name hname with hname' | rfl
    · rw [hname', hvalue]
      dsimp only
      split at h
      · rename_i htakes
        rw [if_pos htakes, h]
      · rename_i htakes
        rw [if_neg htakes]
        exact add_done h inner
    · cases h
  · cases h

theorem readLetters_of_covers (hcovers : Covers outer inner) {letters : List Char} {reading : Reading}
    (h : outer.readLetters letters so = .ok reading) : inner.readLetters letters so = .ok reading := by
  induction letters generalizing so with
  | nil => exact h
  | cons c cs ih =>
    unfold readLetters at h ⊢
    split at h
    · rename_i switch hletter
      rcases hcovers.letter hletter with hletter' | rfl
      · rw [hletter']
        dsimp only
        split at h
        · rename_i htakes
          rw [if_pos htakes]
          split at h
          · rename_i hcs
            rw [if_pos hcs, h]
          · rename_i hcs
            rw [if_neg hcs]
            exact add_done h inner
        · rename_i htakes
          rw [if_neg htakes]
          split at h
          · rename_i so₁ hadd
            rw [(add_cases hadd).2.2.2 inner]
            exact ih h
          · cases h
      · cases h
    · cases h

/-- What an option says is the same at a level that knows all options, whatever stands behind it. -/
theorem readOption_of_covers (hcovers : Covers outer inner) {argument : String} {rest : List String}
    {reading : Reading} (h : outer.readOption argument rest so = .ok reading) (rest' : List String) :
    inner.readOption argument rest' so = .ok reading := by
  unfold readOption at h ⊢
  split at h
  · exact readLong_of_covers hcovers h rest'
  · exact readLetters_of_covers hcovers h
  · exact h

/-! ### Options in front of a command and behind it -/

/-- Options in front of a command are read as if they stood alone; then comes the command. -/
theorem scanFrom_append {pending : Option Switch} {flags : List String} {word : String}
    (hflags : level.scanFrom pending flags so = .ok so') (hnext : so'.next = none)
    (hdashes : "--" ∉ flags) (hword : level.commandNames.contains word = true)
    (hplain : isOptionLike word = false) (rest : List String) :
    level.scanFrom pending (flags ++ word :: rest) so = .ok { so' with next := some (word, rest) } := by
  have hword' : word ≠ "--" := by
    rintro rfl
    exact absurd hplain (by decide)
  induction flags generalizing pending so with
  | nil =>
    rw [List.nil_append]
    cases pending with
    | some switch => cases hflags
    | none =>
      cases hflags
      rw [scanFrom, if_neg hword', hplain, if_neg (by decide), if_pos hword]
  | cons argument flags ih =>
    obtain ⟨hargument, hflags'⟩ : argument ≠ "--" ∧ "--" ∉ flags := by
      rw [List.mem_cons, not_or] at hdashes
      exact ⟨Ne.symm hdashes.1, hdashes.2⟩
    rw [List.cons_append]
    cases pending with
    | some switch =>
      rw [scanFrom] at hflags ⊢
      split at hflags
      · cases hflags
      rename_i hlike
      rw [if_neg hlike]
      split at hflags
      · cases hflags
      · exact ih hflags hflags'
    | none =>
      rw [scanFrom, if_neg hargument] at hflags ⊢
      split at hflags
      · rename_i hlike
        rw [if_pos hlike]
        split at hflags
        · cases hflags
        · rename_i so₁ hoption
          rw [readOption_of_covers (.refl level) hoption (flags ++ word :: rest)]
          exact ih hflags hflags'
        · rename_i switch so₁ hoption
          rw [readOption_of_covers (.refl level) hoption (flags ++ word :: rest)]
          exact ih hflags hflags'
      · rename_i hlike
        rw [if_neg hlike]
        split at hflags
        · -- another command would have ended the reading
          cases hflags
          cases hnext
        rename_i hcommand
        rw [if_neg hcommand]
        split at hflags
        · cases hflags
        · exact ih hflags hflags'

/-- Options of a level that takes no words are read in the same way behind a command that knows them. -/
theorem scanFrom_of_covers (hcovers : Covers outer inner) (hwords : outer.words = []) {pending : Option Switch} {flags : List String}
    (hflags : outer.scanFrom pending flags so = .ok so') (hnext : so'.next = none) :
    inner.scanFrom pending flags so = .ok so' := by
  have hplace : ∀ n : Nat, outer.shownWords[n]? = none := by simp [shownWords, hwords]
  induction flags generalizing pending so with
  | nil => exact hflags
  | cons argument flags ih =>
    cases pending with
    | some switch =>
      rw [scanFrom] at hflags ⊢
      split at hflags
      · cases hflags
      rename_i hlike
      rw [if_neg hlike]
      split at hflags
      · cases hflags
      · rename_i so₁ hadd
        rw [(add_cases hadd).2.2.2 inner]
        exact ih hflags
    | none =>
      rw [scanFrom] at hflags ⊢
      split at hflags
      · rename_i hdashes
        rw [if_pos hdashes]
        cases flags with
        | nil => exact hflags
        | cons word rest => simp [takeWords, takeWord, hplace, refuse, bind, Except.bind] at hflags
      rename_i hdashes
      rw [if_neg hdashes]
      split at hflags
      · rename_i hlike
        rw [if_pos hlike]
        split at hflags
        · cases hflags
        · rename_i so₁ hoption
          rw [readOption_of_covers hcovers hoption flags]
          exact ih hflags
        · rename_i switch so₁ hoption
          rw [readOption_of_covers hcovers hoption flags]
          exact ih hflags
      · split at hflags
        · cases hflags
          cases hnext
        · simp [takeWord, hplace, refuse] at hflags

/-! ### Names -/

/-- What was given since then has the names of options of a level. -/
def Grown (level : Level) (so so' : Scanned) : Prop :=
  ∀ p ∈ so'.given, p ∈ so.given ∨ p.1 ∈ level.switches.map Switch.name

theorem Grown.refl (level : Level) (so : Scanned) : Grown level so so := fun _ => .inl

theorem Grown.trans {so₁ : Scanned} (h₁ : Grown level so so₁) (h₂ : Grown level so₁ so') :
    Grown level so so' :=
  fun p hp => (h₂ p hp).elim (h₁ p) .inr

theorem grown_of_add {isLong : Bool} {switch : Switch} {value : String}
    (hswitch : switch ∈ level.allSwitches) (h : level.add isLong switch value so = .ok so') :
    Grown level so so' := by
  obtain ⟨rfl, hhelp, hversion, -⟩ := add_cases h
  have hown : switch ∈ level.switches := by
    rw [allSwitches, List.mem_append, List.mem_cons] at hswitch
    rcases hswitch with hown | rfl | hlast
    · exact hown
    · exact absurd rfl hhelp
    · split at hlast
      · rw [List.mem_singleton] at hlast
        exact absurd (congrArg Switch.name hlast) hversion
      · cases hlast
  intro p hp
  rw [List.mem_append, List.mem_singleton] at hp
  rcases hp with hp | rfl
  · exact .inl hp
  · exact .inr (List.mem_map_of_mem hown)

/-- The same of the reading of one argument. An option that waits for its value is one of the level. -/
def Reading.Grows (level : Level) (so : Scanned) : Reading → Prop
  | .done so' => Grown level so so'
  | .wants switch so' => Grown level so so' ∧ switch ∈ level.allSwitches

theorem grows_of_add {isLong : Bool} {switch : Switch} {value : String} {reading : Reading}
    (hswitch : switch ∈ level.allSwitches)
    (h : (level.add isLong switch value so).map Reading.done = .ok reading) : reading.Grows level so := by
  cases hadd : level.add isLong switch value so with
  | error e => rw [hadd] at h; cases h
  | ok so₁ =>
    rw [hadd] at h
    cases h
    exact grown_of_add hswitch hadd

theorem readLong_grows {text : List Char} {rest : List String} {reading : Reading}
    (h : level.readLong text rest so = .ok reading) : reading.Grows level so := by
  unfold readLong at h
  dsimp only at h
  split at h
  · rename_i switch value hname hvalue
    split at h
    · exact grows_of_add (List.mem_of_find?_eq_some hname) h
    · cases h
  · rename_i switch hname hvalue
    split at h
    · cases h
      exact ⟨.refl level so, List.mem_of_find?_eq_some hname⟩
    · exact grows_of_add (List.mem_of_find?_eq_some hname) h
  · cases h

theorem readLetters_grows {letters : List Char} {reading : Reading}
    (h : level.readLetters letters so = .ok reading) : reading.Grows level so := by
  induction letters generalizing so with
  | nil =>
    cases h
    exact .refl level so
  | cons c cs ih =>
    unfold readLetters at h
    split at h
    · rename_i switch hletter
      have hswitch := List.mem_of_find?_eq_some hletter
      split at h
      · split at h
        · cases h
          exact ⟨.refl level so, hswitch⟩
        · exact grows_of_add hswitch h
      · split at h
        · rename_i so₁ hadd
          have hfirst := grown_of_add hswitch hadd
          cases reading with
          | done so₂ => exact hfirst.trans (ih h)
          | wants other so₂ => exact ⟨hfirst.trans (ih h).1, (ih h).2⟩
        · cases h
    · cases h

theorem readOption_grows {argument : String} {rest : List String} {reading : Reading}
    (h : level.readOption argument rest so = .ok reading) : reading.Grows level so := by
  unfold readOption at h
  split at h
  · exact readLong_grows h
  · exact readLetters_grows h
  · cases h
    exact .refl level so

theorem given_of_takeWord {afterDashes : Bool} {word : String}
    (h : level.takeWord afterDashes word so = .ok so') : so'.given = so.given := by
  unfold takeWord at h
  split at h
  · cases h
  · split at h
    · cases h
    · cases h
      rfl

theorem given_of_takeWords {words : List String} (h : level.takeWords words so = .ok so') :
    so'.given = so.given := by
  induction words generalizing so with
  | nil =>
    cases h
    rfl
  | cons word rest ih =>
    cases hword : level.takeWord true word so with
    | error e =>
      rw [takeWords, hword] at h
      cases h
    | ok so₁ =>
      rw [takeWords, hword] at h
      exact (ih h).trans (given_of_takeWord hword)

theorem grown_of_scanFrom {pending : Option Switch} {arguments : List String}
    (hpending : ∀ switch ∈ pending, switch ∈ level.allSwitches)
    (h : level.scanFrom pending arguments so = .ok so') : Grown level so so' := by
  induction arguments generalizing pending so with
  | nil =>
    cases pending with
    | some switch => cases h
    | none =>
      cases h
      exact .refl level _
  | cons argument rest ih =>
    cases pending with
    | some switch =>
      rw [scanFrom] at h
      split at h
      · cases h
      split at h
      · cases h
      · rename_i so₁ hadd
        exact (grown_of_add (hpending switch rfl) hadd).trans (ih (by simp) h)
    | none =>
      rw [scanFrom] at h
      split at h
      · rw [Grown, given_of_takeWords h]
        exact Grown.refl level so
      split at h
      · split at h
        · cases h
        · rename_i so₁ hoption
          exact (readOption_grows hoption).trans (ih (by simp) h)
        · rename_i switch so₁ hoption
          have hgrows := readOption_grows hoption
          exact hgrows.1.trans (ih (by simpa using hgrows.2) h)
      · split at h
        · cases h
          exact .refl level so
        · split at h
          · cases h
          · rename_i so₁ hword
            refine Grown.trans ?_ (ih (by simp) h)
            rw [Grown, given_of_takeWord hword]
            exact Grown.refl level so

/-- All that is given has the name of an option of the level. -/
theorem given_of_scan {arguments : List String} (h : level.scan arguments = .ok so) :
    ∀ p ∈ so.given, p.1 ∈ level.switches.map Switch.name :=
  fun p hp => (grown_of_scanFrom (by simp) h p hp).elim (fun hnone => by cases hnone) id

end Stopwatch.CommandLine.Level
