import Stopwatch.System.Disk

/-!
# Following paths again

A path that was followed to write is followed once more to read, for another purpose and on
a disk where something new may be. It takes the same way, because what is new only shows
where something was missing before.

- `Turn`, `followNames_cons_iff`: what one name on the way can do;
- `follow_of_fill`: a path that was followed to write is followed to read;
- `ends_of_follow`, `holds_of_follow`: where a way ends something is, or is missing.
-/

namespace Stopwatch.System.Disk

/-! ### Following -/

/-- A node that ends the way: one cannot go on through it. -/
def Final (node : Node) : Prop := node ≠ .directory ∧ ∀ target, node ≠ .link target

/-- A name that has to be looked up, and can be: neither empty nor dots, and not too
long. -/
structure Proper (name : String) : Prop where
  not_idle : ¬(name = "" ∨ name = ".")
  not_up : name ≠ ".."
  short : name.utf8ByteSize ≤ longestName

/-- Nothing but slashes is left. -/
def OnlySlashes (rest : List String) : Prop := rest ≠ [] ∧ rest.all (· = "") = true

section
variable {disk : Disk} {purpose : Purpose}
  {onLink : Location → String → List String → Except SystemError Target} {here : Location}
  {name : String} {rest : List String} {target : Target}

/-- What one name on the way can do, if the way leads to a target. -/
inductive Turn (disk : Disk) (purpose : Purpose)
    (onLink : Location → String → List String → Except SystemError Target) (here : Location)
    (name : String) (rest : List String) (target : Target) : Prop where
  | idle (h : name = "" ∨ name = ".")
    (hrest : followNames disk purpose onLink here rest = .ok target)
  | up (h : name = "..") (hrest : followNames disk purpose onLink here.tail rest = .ok target)
  | missing (h : Proper name) (hslash : purpose = .fill → ¬OnlySlashes rest)
    (hget : disk.get? (name :: here) = none) (hend : rest.all (· = "") = true)
    (htarget : target = .missing (name :: here))
  | enter (h : Proper name) (hslash : purpose = .fill → ¬OnlySlashes rest)
    (hget : disk.get? (name :: here) = some .directory)
    (hrest : followNames disk purpose onLink (name :: here) rest = .ok target)
  | link (h : Proper name) (hslash : purpose = .fill → ¬OnlySlashes rest) {text : String}
    (hget : disk.get? (name :: here) = some (.link text)) (hname : purpose = .name → rest ≠ [])
    (hrest : onLink here text rest = .ok target)
  | name (h : Proper name) (hpurpose : purpose = .name) {text : String}
    (hget : disk.get? (name :: here) = some (.link text)) (hend : rest = [])
    (htarget : target = .found (name :: here) (.link text))
  | arrive (h : Proper name) {node : Node} (hget : disk.get? (name :: here) = some node)
    (hfinal : Final node) (hend : rest = []) (htarget : target = .found (name :: here) node)

theorem followNames_proper (h : Proper name) (hslash : purpose = .fill → ¬OnlySlashes rest) :
    followNames disk purpose onLink here (name :: rest) =
      match disk.get? (name :: here) with
      | none => if rest.all (· = "") then .ok (.missing (name :: here)) else .error .notFound
      | some .directory => followNames disk purpose onLink (name :: here) rest
      | some (.link text) =>
        if purpose = .name && rest.isEmpty then .ok (.found (name :: here) (.link text))
        else onLink here text rest
      | some node =>
        if rest.isEmpty then .ok (.found (name :: here) node) else .error .notDirectory := by
  have hrest : ¬(purpose = .fill && !rest.isEmpty && rest.all (· = "")) = true := by
    simp only [Bool.and_eq_true, decide_eq_true_eq, Bool.not_eq_true', List.isEmpty_eq_false_iff]
    exact fun ⟨⟨hpurpose, hne⟩, hall⟩ => hslash hpurpose ⟨hne, hall⟩
  rw [followNames, if_neg (by simpa using h.not_idle), if_neg h.not_up, if_neg hrest]
  exact if_neg (Nat.not_lt.mpr h.short)

/-- A name that is not passed over, if the way leads to a target, is proper and not refused
for a slash behind it. -/
theorem proper_of_followNames (hidle : ¬(name = "" ∨ name = ".")) (hup : name ≠ "..")
    (h : followNames disk purpose onLink here (name :: rest) = .ok target) :
    Proper name ∧ (purpose = .fill → ¬OnlySlashes rest) := by
  rw [followNames, if_neg (by simpa using hidle), if_neg hup] at h
  split at h
  · cases h
  rename_i hslash
  split at h
  · cases h
  rename_i hlong
  refine ⟨⟨hidle, hup, Nat.not_lt.mp hlong⟩, fun hpurpose hrest => hslash ?_⟩
  simp [hpurpose, hrest.1, hrest.2]

theorem turn_of_followNames (h : followNames disk purpose onLink here (name :: rest) = .ok target) :
    Turn disk purpose onLink here name rest target := by
  by_cases hidle : name = "" ∨ name = "."
  · rw [followNames, if_pos (by simpa using hidle)] at h
    exact .idle hidle h
  by_cases hup : name = ".."
  · rw [followNames, if_neg (by simpa using hidle), if_pos hup] at h
    exact .up hup h
  obtain ⟨hproper, hslash⟩ := proper_of_followNames hidle hup h
  rw [followNames_proper hproper hslash] at h
  split at h
  · rename_i hget
    split at h
    · rename_i hend
      cases h
      exact .missing hproper hslash hget hend rfl
    · cases h
  · rename_i hget
    exact .enter hproper hslash hget h
  · rename_i hget
    split at h
    · rename_i hname
      cases h
      simp only [Bool.and_eq_true, decide_eq_true_eq, List.isEmpty_iff] at hname
      exact .name hproper hname.1 hget hname.2 rfl
    · rename_i hname
      exact .link hproper hslash hget (fun hpurpose hend => hname (by simp [hpurpose, hend])) h
  · rename_i hdirectory hlink hget
    split at h
    · rename_i hend
      cases h
      exact .arrive hproper hget ⟨hdirectory, hlink⟩ (List.isEmpty_iff.mp hend) rfl
    · cases h

theorem followNames_of_turn (h : Turn disk purpose onLink here name rest target) :
    followNames disk purpose onLink here (name :: rest) = .ok target := by
  have hend {purpose : Purpose} : purpose = .fill → ¬OnlySlashes [] := fun _ h => h.1 rfl
  cases h with
  | idle h hrest => rwa [followNames, if_pos (by simpa using h)]
  | up h hrest =>
    subst h
    rwa [followNames, if_neg (by decide), if_pos rfl]
  | missing h hslash hget hall htarget =>
    rw [followNames_proper h hslash, hget, htarget]
    exact if_pos hall
  | enter h hslash hget hrest =>
    rw [followNames_proper h hslash, hget]
    exact hrest
  | link h hslash hget hname hrest =>
    rw [followNames_proper h hslash, hget]
    refine (if_neg ?_).trans hrest
    simp only [Bool.and_eq_true, decide_eq_true_eq, List.isEmpty_iff]
    exact fun hlast => hname hlast.1 hlast.2
  | name h hpurpose hget hnil htarget =>
    rw [hnil, followNames_proper h hend, hget, htarget, hpurpose]
    rfl
  | @arrive h node hget hfinal hnil htarget =>
    rw [hnil, followNames_proper h hend, hget, htarget]
    cases node with
    | directory => exact absurd rfl hfinal.1
    | link text => exact absurd rfl (hfinal.2 text)
    | _ => rfl

theorem followNames_cons_iff :
    followNames disk purpose onLink here (name :: rest) = .ok target ↔
      Turn disk purpose onLink here name rest target :=
  ⟨turn_of_followNames, followNames_of_turn⟩

end

/-- On a disk, a target that was found elsewhere or was missing there turns out to be a
node at a location. -/
inductive Arrives (disk : Disk) (location : Location) (node : Node) : Target → Prop where
  | found : Arrives disk location node (.found location node)
  | missing (hget : disk.get? location = some node) (hfinal : Final node) :
    Arrives disk location node (.missing location)

section
variable {disk disk' : Disk} {location : Location} {node : Node} {target : Target}

/-- A way on which something can be written is also one on which it can be read, on every
disk that has all that was there, and something where the way ended. -/
theorem followNames_of_fill {onLink onLink' : Location → String → List String →
      Except SystemError Target}
    (hget : ∀ l n, disk.get? l = some n → disk'.get? l = some n)
    (harrives : Arrives disk' location node target)
    (hlinks : ∀ l text rest, onLink l text rest = .ok target →
      onLink' l text rest = .ok (.found location node))
    {names : List String} {here : Location}
    (h : followNames disk .fill onLink here names = .ok target) :
    followNames disk' .visit onLink' here names = .ok (.found location node) := by
  induction names generalizing here with
  | nil =>
    cases h
    cases harrives
    rfl
  | cons name rest ih =>
    refine followNames_cons_iff.mpr ?_
    cases followNames_cons_iff.mp h with
    | idle hidle hrest => exact .idle hidle (ih hrest)
    | up hup hrest => exact .up hup (ih hrest)
    | missing hproper hslash _ hend htarget =>
      subst htarget
      obtain _ | ⟨hnew, hfinal⟩ := harrives
      have hnil : rest = [] :=
        Decidable.byContradiction fun hne => hslash rfl ⟨hne, hend⟩
      exact .arrive hproper hnew hfinal hnil rfl
    | enter hproper _ hold hrest => exact .enter hproper nofun (hget _ _ hold) (ih hrest)
    | link hproper _ hold _ hrest =>
      exact .link hproper nofun (hget _ _ hold) nofun (hlinks _ _ _ hrest)
    | name _ hpurpose => cases hpurpose
    | arrive hproper hold hfinal hend htarget =>
      subst htarget
      cases harrives
      exact .arrive hproper (hget _ _ hold) hfinal hend rfl

theorem followLinks_of_fill (hget : ∀ l n, disk.get? l = some n → disk'.get? l = some n)
    (harrives : Arrives disk' location node target) {links : Nat} {here : Location}
    {names : List String} (h : followLinks disk .fill links here names = .ok target) :
    followLinks disk' .visit links here names = .ok (.found location node) := by
  induction links generalizing here names with
  | zero => exact followNames_of_fill hget harrives (fun _ _ _ hlink => by cases hlink) h
  | succ links ih => exact followNames_of_fill hget harrives (fun _ _ _ hlink => ih hlink) h

/-- A path that was followed to write is followed to read. -/
theorem follow_of_fill (hget : ∀ l n, disk.get? l = some n → disk'.get? l = some n)
    (harrives : Arrives disk' location node target) {origin : Location} {path : String}
    (h : disk.follow origin path .fill = .ok target) :
    disk'.follow origin path .visit = .ok (.found location node) := by
  unfold follow at h ⊢
  split at h
  · cases h
  rename_i hempty
  split at h
  · cases h
  rename_i hlong
  rw [if_neg hempty, if_neg hlong]
  exact followLinks_of_fill hget harrives h

end

/-! ### Where a way ends -/

/-- Where a way can end: in a directory, at something final, at a link if its name is asked
for, or where something is missing. -/
inductive Ends (disk : Disk) (purpose : Purpose) : Target → Prop where
  | directory (location : Location) : Ends disk purpose (.found location .directory)
  | final {location : Location} {node : Node} (hget : disk.get? location = some node)
    (hfinal : Final node) : Ends disk purpose (.found location node)
  | link {location : Location} {text : String} (hpurpose : purpose = .name)
    (hget : disk.get? location = some (.link text)) :
    Ends disk purpose (.found location (.link text))
  | missing {location : Location} (hroot : location ≠ [])
    (hget : disk.get? location = none) : Ends disk purpose (.missing location)

/-- Where a way ends something is, which is final unless it is a directory, or something is
missing. -/
def Target.Holds (disk : Disk) : Target → Prop
  | .found location node => node = .directory ∨ disk.get? location = some node ∧ Final node
  | .missing location => location ≠ [] ∧ disk.get? location = none

section
variable {disk : Disk} {purpose : Purpose} {target : Target}

theorem ends_of_followNames {onLink : Location → String → List String →
      Except SystemError Target}
    (hlinks : ∀ l text rest, onLink l text rest = .ok target → Ends disk purpose target)
    {names : List String} {here : Location}
    (h : followNames disk purpose onLink here names = .ok target) :
    Ends disk purpose target := by
  induction names generalizing here with
  | nil =>
    cases h
    exact .directory here
  | cons name rest ih =>
    cases followNames_cons_iff.mp h with
    | idle _ hrest => exact ih hrest
    | up _ hrest => exact ih hrest
    | missing _ _ hget _ htarget =>
      subst htarget
      exact .missing (List.cons_ne_nil name here) hget
    | enter _ _ _ hrest => exact ih hrest
    | link _ _ _ _ hrest => exact hlinks _ _ _ hrest
    | name _ hname hget _ htarget =>
      subst htarget
      exact .link hname hget
    | arrive _ hget hfinal _ htarget =>
      subst htarget
      exact .final hget hfinal

theorem ends_of_followLinks {links : Nat} {here : Location} {names : List String}
    (h : followLinks disk purpose links here names = .ok target) :
    Ends disk purpose target := by
  induction links generalizing here names with
  | zero => exact ends_of_followNames (fun _ _ _ hlink => by cases hlink) h
  | succ links ih => exact ends_of_followNames (fun _ _ _ hlink => ih hlink) h

theorem ends_of_follow {origin : Location} {path : String}
    (h : disk.follow origin path purpose = .ok target) : Ends disk purpose target := by
  unfold follow at h
  split at h
  · cases h
  split at h
  · cases h
  exact ends_of_followLinks h

theorem holds_of_follow (hpurpose : purpose ≠ .name) {origin : Location} {path : String}
    (h : disk.follow origin path purpose = .ok target) : target.Holds disk := by
  cases ends_of_follow h with
  | directory _ => exact .inl rfl
  | final hget hfinal => exact .inr ⟨hget, hfinal⟩
  | link hname _ => exact absurd hname hpurpose
  | missing hroot hget => exact ⟨hroot, hget⟩

end

end Stopwatch.System.Disk
