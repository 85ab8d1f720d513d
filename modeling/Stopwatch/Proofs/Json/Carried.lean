import Mathlib.Data.List.Forall2
import Stopwatch.Proofs.Json.Codec

/-!
# What reading always keeps

A float may be read as a neighbour of the one that was written, or as none at all. All else
survives: if a value is read from its own text at all, then as one that is related to it. Such
a relation follows the shape of the codec.

- `Codec.Carries`: whatever is read of a written value is related to it;
- `Field.Carries`, `Fields.Carries`: the same for the members of a record;
- `Codec.carries_float` and the like: what obeys which relation.
-/

namespace Stopwatch.Json

/-- Whatever is read of a written value is related to it. -/
def Codec.Carries {α : Type} (c : Codec α) (R : α → α → Prop) : Prop :=
  ∀ a b, c.decode (c.encode a) = some b → R a b

/-- The same for a member of a record, which may not have been written. -/
def Field.Carries {α : Type} (f : Field α) (R : α → α → Prop) : Prop :=
  ∀ a b, (if f.skips a then f.absent else f.codec.decode (f.codec.encode a)) = some b → R a b

/-- The same for every member of a record. -/
inductive Fields.Carries : {τ : Type} → Fields τ → (τ → τ → Prop) → Prop where
  | nil : Carries .nil fun _ _ => True
  | cons {α β : Type} {f : Field α} {R : α → α → Prop} {rest : Fields β} {S : β → β → Prop}
    (hf : f.Carries R) (hrest : rest.Carries S) :
    Carries (.cons f rest) fun a b => R a.1 b.1 ∧ S a.2 b.2

theorem Codec.carries_any {α : Type} (c : Codec α) : c.Carries fun _ _ => True :=
  fun _ _ _ => trivial

theorem Field.carries_any {α : Type} (f : Field α) : f.Carries fun _ _ => True :=
  fun _ _ _ => trivial

theorem Codec.carries_text : text.Carries fun s s' => s' = s :=
  fun _ _ h => (Option.some.inj h).symm

theorem Codec.carries_natural (bits : Nat) : (natural bits).Carries fun n n' => n' = n := by
  intro n n' h
  have hread : (Literal.ofNat n).toNat? bits = some n' := h
  have hvalue : (Literal.ofNat n).wholeValue = n := Nat.ofDigitChars_ten_toDigits
  unfold Literal.toNat? at hread
  split at hread
  · exact (Option.some.inj hread).symm.trans hvalue
  · cases hread

/-- A float is carried if it reads back. -/
theorem Codec.carries_float : float.Carries fun x x' => Literal.ReadsBack x → x' = x :=
  fun _ _ h hx => Option.some.inj (h.symm.trans (decode_float hx))

theorem Codec.carries_list {α : Type} {c : Codec α} {R : α → α → Prop} (h : c.Carries R) :
    c.list.Carries (List.Forall₂ R) := by
  intro xs ys hread
  have hitems : (xs.map c.encode).mapM c.decode = some ys := hread
  clear hread
  induction xs generalizing ys with
  | nil =>
    cases hitems
    exact .nil
  | cons x xs ih =>
    rw [List.map_cons, List.mapM_cons] at hitems
    obtain ⟨y, hy, hitems⟩ := Option.bind_eq_some_iff.mp hitems
    obtain ⟨zs, hzs, hitems⟩ := Option.bind_eq_some_iff.mp hitems
    cases hitems
    exact .cons (h x y hy) (ih zs hzs)

theorem Field.carries_required {α : Type} {c : Codec α} {R : α → α → Prop} {name : String}
    (h : c.Carries R) : (required name c).Carries R := h

theorem Field.carries_list {α : Type} {c : Codec α} {R : α → α → Prop} {name : String}
    (h : c.Carries R) : (list name c).Carries (List.Forall₂ R) := Codec.carries_list h

/-- The members are found where they were put, whatever others come before them. -/
theorem Fields.Carries.of_ofMembers? {τ : Type} {fields : Fields τ} {R : τ → τ → Prop}
    (h : fields.Carries R) (hnames : fields.names.Nodup) {a b : τ}
    (before : List (Label × Value)) (hbefore : ∀ m ∈ before, fields.Foreign m.1)
    (hread : fields.ofMembers? (before ++ fields.members a) = some b) : R a b := by
  induction h generalizing before with
  | nil => trivial
  | @cons α β f R rest S hf _ ih =>
    obtain ⟨a, as⟩ := a
    obtain ⟨hname, hnames⟩ := List.nodup_cons.mp hnames
    have hfirst := f.ofMembers?_member a
      (fun m hm => hbefore m hm f.name List.mem_cons_self) (rest.ne_of_mem_members hname as)
    rw [members, ← List.append_assoc, ofMembers?] at hread
    obtain ⟨x, hx, hread⟩ := Option.bind_eq_some_iff.mp hread
    obtain ⟨xs, hxs, hread⟩ := Option.bind_eq_some_iff.mp hread
    cases hread
    exact ⟨hf a x (hfirst.symm.trans hx),
      ih hnames (before ++ f.member a) (foreign_append_member hname hbefore a) hxs⟩

namespace Codec

theorem carries_record {α τ : Type} {fields : Fields τ} {R : τ → τ → Prop} {split : α → τ}
    {join : τ → α} (h : fields.Carries R) (hnames : fields.names.Nodup)
    (hsplit : ∀ t, split (join t) = t) :
    (record fields split join).Carries fun a b => R (split a) (split b) := by
  intro a b hread
  rw [decode_encode_record] at hread
  obtain ⟨t, ht, rfl⟩ := Option.map_eq_some_iff.mp hread
  rw [hsplit]
  exact h.of_ofMembers? hnames [] nofun ht

/-- Whatever is read of the texts of a value is related to it. -/
theorem Carries.of_read? {α : Type} {c : Codec α} {R : α → α → Prop} {s : Content α}
    (h : c.Carries R) (hc : c.Faithful s) {a b : α} {text : String} (htext : text ∈ c.texts a)
    (hread : c.read? text = some b) : R a b :=
  h a b ((read?_texts hc a text htext).symm.trans hread)

end Codec

end Stopwatch.Json
