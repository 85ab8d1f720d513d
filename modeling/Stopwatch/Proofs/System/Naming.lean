import Stopwatch.Proofs.System.Disk

/-!
# What a path names

A path that is followed to write goes through a link at its end, while one that is followed
to remove something stops at the link. So what is written somewhere is removed again only if
nothing had its name before.

- `follow_grown`: where a path led, it leads on every disk that has more on it;
- `NamedAlike`, `follow_name_of_fill`: what a path that was followed to write names, before and after.
-/

namespace Stopwatch.System.Disk

/-! ### On a disk with more on it -/

section
variable {disk disk' : Disk} {purpose : Purpose} {location : Location} {node : Node}

theorem followNames_grown {onLink onLink' : Location → String → List String →
      Except SystemError Target}
    (hget : ∀ l n, disk.get? l = some n → disk'.get? l = some n)
    (hlinks : ∀ l text rest, onLink l text rest = .ok (.found location node) →
      onLink' l text rest = .ok (.found location node))
    {names : List String} {here : Location}
    (h : followNames disk purpose onLink here names = .ok (.found location node)) :
    followNames disk' purpose onLink' here names = .ok (.found location node) := by
  induction names generalizing here with
  | nil => exact h
  | cons name rest ih =>
    refine followNames_cons_iff.mpr ?_
    cases followNames_cons_iff.mp h with
    | idle hidle hrest => exact .idle hidle (ih hrest)
    | up hup hrest => exact .up hup (ih hrest)
    | missing _ _ _ _ htarget => cases htarget
    | enter hproper hslash hold hrest => exact .enter hproper hslash (hget _ _ hold) (ih hrest)
    | link hproper hslash hold hname hrest =>
      exact .link hproper hslash (hget _ _ hold) hname (hlinks _ _ _ hrest)
    | name hproper hpurpose hold hend htarget =>
      exact .name hproper hpurpose (hget _ _ hold) hend htarget
    | arrive hproper hold hfinal hend htarget =>
      exact .arrive hproper (hget _ _ hold) hfinal hend htarget

theorem followLinks_grown (hget : ∀ l n, disk.get? l = some n → disk'.get? l = some n)
    {links : Nat} {here : Location} {names : List String}
    (h : followLinks disk purpose links here names = .ok (.found location node)) :
    followLinks disk' purpose links here names = .ok (.found location node) := by
  induction links generalizing here names with
  | zero => exact followNames_grown hget (fun _ _ _ hlink => by cases hlink) h
  | succ links ih => exact followNames_grown hget (fun _ _ _ hlink => ih hlink) h

/-- Where a path led, it leads on a disk that has all that was there. -/
theorem follow_grown (hget : ∀ l n, disk.get? l = some n → disk'.get? l = some n)
    {origin : Location} {path : String}
    (h : disk.follow origin path purpose = .ok (.found location node)) :
    disk'.follow origin path purpose = .ok (.found location node) := by
  unfold follow at h ⊢
  split at h
  · cases h
  rename_i hempty
  split at h
  · cases h
  rename_i hlong
  rw [if_neg hempty, if_neg hlong]
  exact followLinks_grown hget h

end

/-! ### Names and links -/

/-- A path names the place where it leads when it is followed to write, which was `target` and
is `found` afterwards, or it names a link, which stays. -/
def NamedAlike (target found : Target) (before after : Except SystemError Target) : Prop :=
  (before = .ok target ∧ after = .ok found) ∨
    ∃ location text, before = .ok (.found location (.link text)) ∧
      after = .ok (.found location (.link text))

theorem NamedAlike.imp {target found : Target} {before after before' after' :
      Except SystemError Target} (h : NamedAlike target found before after)
    (hbefore : ∀ t, before = .ok t → before' = .ok t)
    (hafter : ∀ t, after = .ok t → after' = .ok t) : NamedAlike target found before' after' := by
  obtain ⟨h, h'⟩ | ⟨location, text, h, h'⟩ := h
  · exact .inl ⟨hbefore _ h, hafter _ h'⟩
  · exact .inr ⟨location, text, hbefore _ h, hafter _ h'⟩

section
variable {disk disk' : Disk} {location : Location} {node : Node} {target : Target}

theorem followNames_name_of_fill {onLink onName onName' : Location → String → List String →
      Except SystemError Target}
    (hget : ∀ l n, disk.get? l = some n → disk'.get? l = some n)
    (harrives : Arrives disk' location node target)
    (hlinks : ∀ l text rest, onLink l text rest = .ok target →
      NamedAlike target (.found location node) (onName l text rest) (onName' l text rest))
    {names : List String} {here : Location}
    (h : followNames disk .fill onLink here names = .ok target) :
    NamedAlike target (.found location node) (followNames disk .name onName here names)
      (followNames disk' .name onName' here names) := by
  induction names generalizing here with
  | nil =>
    cases h
    cases harrives
    exact .inl ⟨rfl, rfl⟩
  | cons name rest ih =>
    cases followNames_cons_iff.mp h with
    | idle hidle hrest =>
      exact (ih hrest).imp (fun _ h => followNames_cons_iff.mpr (.idle hidle h))
        fun _ h => followNames_cons_iff.mpr (.idle hidle h)
    | up hup hrest =>
      exact (ih hrest).imp (fun _ h => followNames_cons_iff.mpr (.up hup h))
        fun _ h => followNames_cons_iff.mpr (.up hup h)
    | missing hproper hslash hold hend htarget =>
      subst htarget
      obtain _ | ⟨hnew, hfinal⟩ := harrives
      have hnil : rest = [] :=
        Decidable.byContradiction fun hne => hslash rfl ⟨hne, hend⟩
      exact .inl ⟨followNames_cons_iff.mpr (.missing hproper nofun hold hend rfl),
        followNames_cons_iff.mpr (.arrive hproper hnew hfinal hnil rfl)⟩
    | enter hproper hslash hold hrest =>
      exact (ih hrest).imp (fun _ h => followNames_cons_iff.mpr (.enter hproper nofun hold h))
        fun _ h => followNames_cons_iff.mpr (.enter hproper nofun (hget _ _ hold) h)
    | @link hproper _ text hold _ hrest =>
      by_cases hend : rest = []
      -- a link at the end is named itself
      · exact .inr ⟨name :: here, text,
          followNames_cons_iff.mpr (.name hproper rfl hold hend rfl),
          followNames_cons_iff.mpr (.name hproper rfl (hget _ _ hold) hend rfl)⟩
      · exact (hlinks _ _ _ hrest).imp
          (fun _ h => followNames_cons_iff.mpr (.link hproper nofun hold (fun _ => hend) h))
          fun _ h =>
            followNames_cons_iff.mpr (.link hproper nofun (hget _ _ hold) (fun _ => hend) h)
    | name _ hpurpose => cases hpurpose
    | arrive hproper hold hfinal hend htarget =>
      subst htarget
      cases harrives
      exact .inl ⟨followNames_cons_iff.mpr (.arrive hproper hold hfinal hend rfl),
        followNames_cons_iff.mpr (.arrive hproper (hget _ _ hold) hfinal hend rfl)⟩

theorem followLinks_name_of_fill (hget : ∀ l n, disk.get? l = some n → disk'.get? l = some n)
    (harrives : Arrives disk' location node target) {links : Nat} {here : Location}
    {names : List String} (h : followLinks disk .fill links here names = .ok target) :
    NamedAlike target (.found location node) (followLinks disk .name links here names)
      (followLinks disk' .name links here names) := by
  induction links generalizing here names with
  | zero => exact followNames_name_of_fill hget harrives (fun _ _ _ hlink => by cases hlink) h
  | succ links ih => exact followNames_name_of_fill hget harrives (fun _ _ _ hlink => ih hlink) h

/-- A path that was followed to write names the place where it led, or a link. -/
theorem follow_name_of_fill (hget : ∀ l n, disk.get? l = some n → disk'.get? l = some n)
    (harrives : Arrives disk' location node target) {origin : Location} {path : String}
    (h : disk.follow origin path .fill = .ok target) :
    NamedAlike target (.found location node) (disk.follow origin path .name)
      (disk'.follow origin path .name) := by
  unfold follow at h ⊢
  split at h
  · cases h
  rename_i hempty
  split at h
  · cases h
  rename_i hlong
  rw [if_neg hempty, if_neg hlong, if_neg hempty, if_neg hlong]
  exact followLinks_name_of_fill hget harrives h

end

end Stopwatch.System.Disk
