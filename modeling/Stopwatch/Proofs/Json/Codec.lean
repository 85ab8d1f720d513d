import Stopwatch.Json.Codec
import Stopwatch.Proofs.Json.Number
import Stopwatch.Proofs.Json.Parse

/-!
# Laws of codecs

A document has no word for a float that is not finite. Where such a float may be absent it
is lost, and where it must be there the document is refused. A `Content` says which floats
of a type are which, and `Codec.Faithful` that a codec loses and refuses exactly that. The
laws of a compound follow from those of its parts.

- `Content`: the floats of a type, those that must be there and those that may be absent;
- `Codec.Faithful`: the laws; `faithful_float`, `faithful_list`, `faithful_nullable` and
  the like: what obeys them;
- `Field.Faithful`, `Fields.Faithful`: the laws for the members of a record;
- `faithful_record`: a record obeys the laws if its fields do and have different names;
- `Codec.RoundTrips`: what the laws mean for texts.
-/

namespace Stopwatch.Json

open Stopwatch.Decimal (isFinite)
open Literal (ReadsBack)

/-! ### Contents -/

def AllFinite (xs : List Float) : Prop := ∀ x ∈ xs, isFinite x = true

/-- The finite ones among these floats read back. -/
def AllReadBack (xs : List Float) : Prop := ∀ x ∈ xs, isFinite x = true → ReadsBack x

instance (xs : List Float) : Decidable (AllFinite xs) := List.decidableBAll _ xs

instance (xs : List Float) : Decidable (AllReadBack xs) := List.decidableBAll _ xs

theorem allFinite_nil : AllFinite [] := nofun

theorem allFinite_singleton {x : Float} : AllFinite [x] ↔ isFinite x = true :=
  List.forall_mem_singleton

theorem allFinite_append {xs ys : List Float} :
    AllFinite (xs ++ ys) ↔ AllFinite xs ∧ AllFinite ys :=
  List.forall_mem_append

theorem allReadBack_append {xs ys : List Float} :
    AllReadBack (xs ++ ys) ↔ AllReadBack xs ∧ AllReadBack ys := List.forall_mem_append

theorem allFinite_flatMap {α : Type} {f : α → List Float} {xs : List α} :
    AllFinite (xs.flatMap f) ↔ ∀ x ∈ xs, AllFinite (f x) := List.forall_mem_flatMap

theorem allReadBack_flatMap {α : Type} {f : α → List Float} {xs : List α} :
    AllReadBack (xs.flatMap f) ↔ ∀ x ∈ xs, AllReadBack (f x) := List.forall_mem_flatMap

/-- What a document can hold of the values of a type. -/
structure Content (α : Type) where
  /-- The floats that must be there. -/
  required : α → List Float
  /-- The floats that may be absent. -/
  optional : α → List Float
  /-- The integers have the size of their machine type. -/
  fits : α → Prop
  /-- The value without the floats that are not finite and may be absent. -/
  kept : α → α

namespace Content

/-- A value that is read as far as it can be held. -/
structure Written {α : Type} (s : Content α) (a : α) : Prop where
  fits : s.fits a
  required_finite : AllFinite (s.required a)
  required_readBack : AllReadBack (s.required a)
  optional_readBack : AllReadBack (s.optional a)

/-- A value that can be held as it is. -/
structure Whole {α : Type} (s : Content α) (a : α) : Prop where
  fits : s.fits a
  required_finite : AllFinite (s.required a)
  optional_finite : AllFinite (s.optional a)

/-- Values without floats. -/
@[simp] def plain (α : Type) : Content α := ⟨fun _ => [], fun _ => [], fun _ => True, id⟩

/-- Unsigned integers of so many bits. -/
@[simp] def natural (bits : Nat) : Content Nat := { plain Nat with fits n := n < 2 ^ bits }

/-- A float that must be there. -/
@[simp] def float : Content Float := { plain Float with required x := [x] }

/-- A float that may be absent. -/
@[simp] def nullableFloat : Content (Option Float) :=
  { plain (Option Float) with optional := Option.toList, kept := Option.filter isFinite }

@[simp] def list {α : Type} (s : Content α) : Content (List α) where
  required xs := xs.flatMap s.required
  optional xs := xs.flatMap s.optional
  fits xs := ∀ x ∈ xs, s.fits x
  kept xs := xs.map s.kept

@[simp] def nullable {α : Type} (s : Content α) : Content (Option α) where
  required x := x.elim [] s.required
  optional x := x.elim [] s.optional
  fits x := ∀ a ∈ x, s.fits a
  kept x := x.map s.kept

@[simp] def pair {α β : Type} (s : Content α) (t : Content β) : Content (α × β) where
  required a := s.required a.1 ++ t.required a.2
  optional a := s.optional a.1 ++ t.optional a.2
  fits a := s.fits a.1 ∧ t.fits a.2
  kept a := (s.kept a.1, t.kept a.2)

/-- The content of a type whose values are taken apart and put together. -/
@[simp] def along {α τ : Type} (s : Content τ) (split : α → τ) (join : τ → α) : Content α where
  required a := s.required (split a)
  optional a := s.optional (split a)
  fits a := s.fits (split a)
  kept a := join (s.kept (split a))

theorem whole_plain {α : Type} (a : α) : (plain α).Whole a :=
  ⟨trivial, allFinite_nil, allFinite_nil⟩

theorem written_list {α : Type} {s : Content α} {xs : List α} :
    s.list.Written xs ↔ ∀ x ∈ xs, s.Written x := by
  constructor
  · intro h x hx
    exact ⟨h.fits x hx, allFinite_flatMap.mp h.required_finite x hx,
      allReadBack_flatMap.mp h.required_readBack x hx,
      allReadBack_flatMap.mp h.optional_readBack x hx⟩
  · intro h
    exact ⟨fun x hx => (h x hx).fits,
      allFinite_flatMap.mpr fun x hx => (h x hx).required_finite,
      allReadBack_flatMap.mpr fun x hx => (h x hx).required_readBack,
      allReadBack_flatMap.mpr fun x hx => (h x hx).optional_readBack⟩

theorem whole_list {α : Type} {s : Content α} {xs : List α} :
    s.list.Whole xs ↔ ∀ x ∈ xs, s.Whole x := by
  constructor
  · intro h x hx
    exact ⟨h.fits x hx, allFinite_flatMap.mp h.required_finite x hx,
      allFinite_flatMap.mp h.optional_finite x hx⟩
  · intro h
    exact ⟨fun x hx => (h x hx).fits,
      allFinite_flatMap.mpr fun x hx => (h x hx).required_finite,
      allFinite_flatMap.mpr fun x hx => (h x hx).optional_finite⟩

theorem whole_nil {α : Type} {s : Content α} : s.list.Whole [] := whole_list.mpr nofun

theorem written_some {α : Type} {s : Content α} {a : α} :
    s.nullable.Written (some a) ↔ s.Written a :=
  ⟨fun h => ⟨h.fits a rfl, h.required_finite, h.required_readBack, h.optional_readBack⟩,
    fun h => ⟨fun _ ha => Option.some.inj ha ▸ h.fits, h.required_finite, h.required_readBack,
      h.optional_readBack⟩⟩

theorem whole_some {α : Type} {s : Content α} {a : α} : s.nullable.Whole (some a) ↔ s.Whole a :=
  ⟨fun h => ⟨h.fits a rfl, h.required_finite, h.optional_finite⟩,
    fun h => ⟨fun _ ha => Option.some.inj ha ▸ h.fits, h.required_finite, h.optional_finite⟩⟩

theorem whole_none {α : Type} {s : Content α} : s.nullable.Whole none :=
  ⟨nofun, allFinite_nil, allFinite_nil⟩

theorem whole_no_float : nullableFloat.Whole none := ⟨trivial, allFinite_nil, allFinite_nil⟩

@[simp] theorem elim_nil {α : Type} (x : Option α) :
    x.elim ([] : List Float) (fun _ => []) = [] := by
  cases x <;> rfl

theorem written_pair {α β : Type} {s : Content α} {t : Content β} {a : α} {b : β} :
    (s.pair t).Written (a, b) ↔ s.Written a ∧ t.Written b := by
  constructor
  · intro h
    obtain ⟨hfinite, hfinite'⟩ := allFinite_append.mp h.required_finite
    obtain ⟨hrequired, hrequired'⟩ := allReadBack_append.mp h.required_readBack
    obtain ⟨hoptional, hoptional'⟩ := allReadBack_append.mp h.optional_readBack
    exact ⟨⟨h.fits.1, hfinite, hrequired, hoptional⟩,
      ⟨h.fits.2, hfinite', hrequired', hoptional'⟩⟩
  · rintro ⟨h, h'⟩
    exact ⟨⟨h.fits, h'.fits⟩, allFinite_append.mpr ⟨h.required_finite, h'.required_finite⟩,
      allReadBack_append.mpr ⟨h.required_readBack, h'.required_readBack⟩,
      allReadBack_append.mpr ⟨h.optional_readBack, h'.optional_readBack⟩⟩

theorem Whole.pair {α β : Type} {s : Content α} {t : Content β} {a : α} {b : β} (h : s.Whole a)
    (h' : t.Whole b) : (s.pair t).Whole (a, b) :=
  ⟨⟨h.fits, h'.fits⟩, allFinite_append.mpr ⟨h.required_finite, h'.required_finite⟩,
    allFinite_append.mpr ⟨h.optional_finite, h'.optional_finite⟩⟩

end Content

/-! ### Laws -/

/-- A codec loses and refuses what its content says. -/
structure Codec.Faithful {α : Type} (c : Codec α) (s : Content α) : Prop where
  /-- All numbers that are written are read back as written. -/
  readable : ∀ a, (c.encode a).Readable
  /-- What is written is read, but for floats that are absent. -/
  reads : ∀ a, s.Written a → c.decode (c.encode a) = some (s.kept a)
  /-- Without a float that must be there, nothing is read. -/
  refuses : ∀ a, ¬AllFinite (s.required a) → c.decode (c.encode a) = none
  /-- What is read can be held. -/
  whole : ∀ v a, c.decode v = some a → s.Whole a
  /-- Nothing else is lost. -/
  kept_eq : ∀ a, AllFinite (s.optional a) → s.kept a = a

namespace Codec

open Value
  (readable_null readable_bool readable_string readable_number readable_array readable_object)

/-! ### Scalars -/

theorem faithful_text : text.Faithful (.plain String) where
  readable _ := readable_string _
  reads _ _ := rfl
  refuses _ h := absurd allFinite_nil h
  whole _ a _ := Content.whole_plain a
  kept_eq _ _ := rfl

theorem faithful_flag : flag.Faithful (.plain Bool) where
  readable _ := readable_bool _
  reads _ _ := rfl
  refuses _ h := absurd allFinite_nil h
  whole _ a _ := Content.whole_plain a
  kept_eq _ _ := rfl

theorem faithful_natural (bits : Nat) : (natural bits).Faithful (.natural bits) where
  readable _ := readable_number.mpr (Literal.wellFormed_ofNat _)
  reads _ h := Literal.toNat?_ofNat h.fits
  refuses _ h := absurd allFinite_nil h
  whole v n h := by
    refine ⟨?_, allFinite_nil, allFinite_nil⟩
    cases v with
    | number l =>
      have hvalue : l.toNat? bits = some n := h
      unfold Literal.toNat? at hvalue
      split at hvalue
      · rename_i hfits
        obtain rfl := Option.some.inj hvalue
        exact hfits.2.2
      · cases hvalue
    | _ => cases h
  kept_eq _ _ := rfl

theorem faithful_word64 : word64.Faithful (.plain UInt64) where
  readable _ := readable_number.mpr (Literal.wellFormed_ofNat _)
  reads n _ := by
    show ((Literal.ofNat n.toNat).toNat? 64).map UInt64.ofNat = some n
    rw [Literal.toNat?_ofNat n.toNat_lt, Option.map_some, UInt64.ofNat_toNat]
  refuses _ h := absurd allFinite_nil h
  whole _ a _ := Content.whole_plain a
  kept_eq _ _ := rfl

theorem faithful_signed64 : signed64.Faithful (.plain Int64) where
  readable _ := readable_number.mpr (Literal.wellFormed_ofInt _)
  reads n _ := by
    show (Literal.ofInt n.toInt).toInt?.map Int64.ofInt = some n
    rw [Literal.toInt?_ofInt n.le_toInt n.toInt_lt, Option.map_some, Int64.ofInt_toInt]
  refuses _ h := absurd allFinite_nil h
  whole _ a _ := Content.whole_plain a
  kept_eq _ _ := rfl

/-- Some float is written as a number, and one that is not finite as `null`. -/
theorem encode_float_cases (x : Float) :
    (∃ n, isFinite x = true ∧ Literal.ofFloat? x = some n ∧ float.encode x = .number n ∧
        n.WellFormed) ∨
      isFinite x = false ∧ float.encode x = .null := by
  have hfinite := Literal.isSome_ofFloat? x
  have hencode : float.encode x = (Literal.ofFloat? x).elim .null .number := rfl
  cases hliteral : Literal.ofFloat? x with
  | some n =>
    rw [hliteral] at hfinite hencode
    exact .inl ⟨n, hfinite.symm, rfl, hencode, Literal.wellFormed_of_ofFloat? hliteral⟩
  | none =>
    rw [hliteral] at hfinite hencode
    exact .inr ⟨hfinite.symm, hencode⟩

theorem readable_float (x : Float) : (float.encode x).Readable := by
  obtain ⟨n, _, _, hencode, hn⟩ | ⟨_, hencode⟩ := encode_float_cases x
  · rw [hencode]
    exact readable_number.mpr hn
  · rw [hencode]
    exact readable_null

theorem decode_float {x : Float} (h : ReadsBack x) :
    float.decode (float.encode x) = some x := by
  obtain ⟨n, _, hliteral, hencode, _⟩ | ⟨hinfinite, _⟩ := encode_float_cases x
  · unfold ReadsBack at h
    rw [hliteral, Option.bind_some] at h
    rw [hencode]
    exact h
  · have hfinite := Literal.isSome_ofFloat? x
    unfold ReadsBack at h
    rw [hinfinite, Option.isSome_eq_false_iff, Option.isNone_iff_eq_none] at hfinite
    rw [hfinite] at h
    cases h

theorem isFinite_of_decode {v : Value} {x : Float} (h : float.decode v = some x) :
    isFinite x = true := by
  cases v with
  | number n => exact Literal.isFinite_of_toFloat? h
  | _ => cases h

theorem faithful_float : float.Faithful .float where
  readable := readable_float
  reads x h :=
    decode_float (h.required_readBack x List.mem_cons_self
      (h.required_finite x List.mem_cons_self))
  refuses x h := by
    obtain ⟨_, hfinite, _⟩ | ⟨_, hencode⟩ := encode_float_cases x
    · exact absurd (allFinite_singleton.mpr hfinite) h
    · rw [hencode]
      rfl
  whole _ _ h := ⟨trivial, allFinite_singleton.mpr (isFinite_of_decode h), allFinite_nil⟩
  kept_eq _ _ := rfl

theorem faithful_nullable_float : float.nullable.Faithful .nullableFloat where
  readable x := by
    cases x with
    | none => exact readable_null
    | some x => exact readable_float x
  reads x h := by
    cases x with
    | none => rfl
    | some x =>
      show float.nullable.decode (float.encode x) = some ((some x).filter isFinite)
      obtain ⟨n, hfinite, _, hencode, _⟩ | ⟨hinfinite, hencode⟩ := encode_float_cases x
      · have hread := decode_float (h.optional_readBack x List.mem_cons_self hfinite)
        rw [hencode] at hread ⊢
        show (float.decode (.number n)).map some = _
        rw [hread, Option.map_some, Option.filter_some, if_pos hfinite]
      · rw [hencode, Option.filter_some, hinfinite]
        rfl
  refuses _ h := absurd allFinite_nil h
  whole v x h := by
    refine ⟨trivial, allFinite_nil, ?_⟩
    cases v with
    | null =>
      cases h
      exact allFinite_nil
    | number n =>
      obtain ⟨y, hread, rfl⟩ := Option.map_eq_some_iff.mp h
      exact allFinite_singleton.mpr (Literal.isFinite_of_toFloat? hread)
    | _ => cases h
  kept_eq x h := by
    cases x with
    | none => rfl
    | some x =>
      have hfinite := h x List.mem_cons_self
      show (some x).filter isFinite = some x
      rw [Option.filter_some, if_pos hfinite]

theorem faithful_word {α : Type} {name : α → String} {all : List α}
    (h : ∀ a, (all.find? fun b => some (name b) == some (name a)) = some a) :
    (word name all).Faithful (.plain α) where
  readable _ := readable_string _
  reads a _ := h a
  refuses _ h := absurd allFinite_nil h
  whole _ a _ := Content.whole_plain a
  kept_eq _ _ := rfl

/-! ### Compounds -/

theorem faithful_list {α : Type} {c : Codec α} {s : Content α} (h : c.Faithful s) :
    c.list.Faithful s.list where
  readable xs := readable_array.mpr fun v hv => by
    obtain ⟨x, _, rfl⟩ := List.mem_map.mp hv
    exact h.readable x
  reads xs hxs := by
    have hall := Content.written_list.mp hxs
    show (xs.map c.encode).mapM c.decode = some (xs.map s.kept)
    induction xs with
    | nil => rfl
    | cons x xs ih =>
      obtain ⟨hx, hrest⟩ := List.forall_mem_cons.mp hall
      have htail := ih (Content.written_list.mpr hrest) hrest
      rw [List.map_cons, List.mapM_cons, h.reads x hx, htail]
      rfl
  refuses xs hxs := by
    show (xs.map c.encode).mapM c.decode = none
    induction xs with
    | nil => exact absurd allFinite_nil hxs
    | cons x xs ih =>
      rw [List.map_cons, List.mapM_cons]
      -- the first item is refused, or one of the others
      by_cases hx : AllFinite (s.required x)
      · have hrest : ¬AllFinite (s.list.required xs) := fun hrest =>
          hxs (allFinite_append.mpr ⟨hx, hrest⟩)
        rw [ih hrest]
        cases c.decode (c.encode x) <;> rfl
      · rw [h.refuses x hx]
        rfl
  whole v xs hread := by
    cases v with
    | array vs =>
      have hread' : vs.mapM c.decode = some xs := hread
      refine Content.whole_list.mpr ?_
      clear hread
      induction vs generalizing xs with
      | nil =>
        cases hread'
        nofun
      | cons v vs ih =>
        rw [List.mapM_cons] at hread'
        obtain ⟨x, hx, hread'⟩ := Option.bind_eq_some_iff.mp hread'
        obtain ⟨ys, hys, hread'⟩ := Option.bind_eq_some_iff.mp hread'
        cases hread'
        exact List.forall_mem_cons.mpr ⟨h.whole v x hx, ih ys hys⟩
    | _ => cases hread
  kept_eq xs hxs := by
    have hall := allFinite_flatMap.mp hxs
    exact (List.map_congr_left fun x hx => h.kept_eq x (hall x hx)).trans (List.map_id xs)

/-- A value that is never written as `null` may be told from none. -/
theorem faithful_nullable {α : Type} {c : Codec α} {s : Content α} (h : c.Faithful s)
    (hne : ∀ a, c.encode a ≠ .null) : c.nullable.Faithful s.nullable := by
  have hdecode {v : Value} (hv : v ≠ .null) : c.nullable.decode v = (c.decode v).map some := by
    cases v <;> first | rfl | exact absurd rfl hv
  exact {
    readable := fun x => by
      cases x with
      | none => exact readable_null
      | some a => exact h.readable a
    reads := fun x hx => by
      cases x with
      | none => rfl
      | some a =>
        show c.nullable.decode (c.encode a) = some (some (s.kept a))
        rw [hdecode (hne a), h.reads a (Content.written_some.mp hx), Option.map_some]
    refuses := fun x hx => by
      cases x with
      | none => exact absurd allFinite_nil hx
      | some a =>
        show c.nullable.decode (c.encode a) = none
        rw [hdecode (hne a), h.refuses a hx, Option.map_none]
    whole := fun v x hread => by
      cases x with
      | none => exact Content.whole_none
      | some a =>
        have hv : v ≠ .null := by
          rintro rfl
          cases hread
        rw [hdecode hv] at hread
        obtain ⟨b, hb, hab⟩ := Option.map_eq_some_iff.mp hread
        cases hab
        exact Content.whole_some.mpr (h.whole v a hb)
    kept_eq := fun x hx => by
      cases x with
      | none => rfl
      | some a => exact congrArg some (h.kept_eq a hx) }

theorem faithful_nullable_text : text.nullable.Faithful (.nullable (.plain String)) :=
  faithful_nullable faithful_text fun _ => nofun

end Codec

/-! ### Members of a record -/

/-- A member obeys the laws if its codec does, and what it reads when it is absent can be
held. -/
structure Field.Faithful {α : Type} (f : Field α) (s : Content α) : Prop where
  codec : f.codec.Faithful s
  skipped : ∀ a, f.skips a = true → f.absent = some a
  absent : ∀ a, f.absent = some a → s.Whole a
  missing : ∀ a, f.missing = some a → s.Whole a

namespace Field

theorem faithful_required {α : Type} {c : Codec α} {s : Content α} {name : String}
    (h : c.Faithful s) : (required name c).Faithful s := ⟨h, nofun, nofun, nofun⟩

section
variable {α : Type} {c : Codec α} {s : Content (Option α)}

theorem faithful_nullable {name : String} (h : c.nullable.Faithful s) (hnone : s.Whole none) :
    (nullable name c).Faithful s where
  codec := h
  skipped := nofun
  absent _ ha := Option.some.inj ha ▸ hnone
  missing := nofun

theorem faithful_optional {name : String} (h : c.nullable.Faithful s) (hnone : s.Whole none) :
    (optional name c).Faithful s where
  codec := h
  skipped _ ha := congrArg some (Option.isNone_iff_eq_none.mp ha).symm
  absent _ ha := Option.some.inj ha ▸ hnone
  missing _ ha := Option.some.inj ha ▸ hnone

end

section
variable {α : Type} {c : Codec α} {s : Content α}

theorem faithful_list {name : String} (h : c.Faithful s) : (list name c).Faithful s.list where
  codec := Codec.faithful_list h
  skipped := nofun
  absent _ ha := Option.some.inj ha ▸ Content.whole_nil
  missing _ ha := Option.some.inj ha ▸ Content.whole_nil

theorem faithful_sparse {name : String} (h : c.Faithful s) :
    (sparse name c).Faithful s.list where
  codec := Codec.faithful_list h
  skipped _ ha := congrArg some (List.isEmpty_iff.mp ha).symm
  absent _ ha := Option.some.inj ha ▸ Content.whole_nil
  missing _ ha := Option.some.inj ha ▸ Content.whole_nil

end

/-- Among other members, the one that was written is found, or found to be absent. -/
theorem ofMembers?_member {α : Type} (f : Field α) (a : α) {before after : List (Label × Value)}
    (hbefore : ∀ m ∈ before, m.1 ≠ some f.name) (hafter : ∀ m ∈ after, m.1 ≠ some f.name) :
    f.ofMembers? (before ++ f.member a ++ after) =
      if f.skips a then f.absent else f.codec.decode (f.codec.encode a) := by
  have hnone {ms : List (Label × Value)} (h : ∀ m ∈ ms, m.1 ≠ some f.name) :
      ms.filter (·.1 == some f.name) = [] :=
    List.filter_eq_nil_iff.mpr fun m hm heq => h m hm (eq_of_beq heq)
  unfold ofMembers?
  rw [List.filter_append, List.filter_append, hnone hbefore, hnone hafter, List.nil_append,
    List.append_nil, member]
  cases f.skips a with
  | true => rfl
  | false =>
    have hone : [(some f.name, f.codec.encode a)].filter (·.1 == some f.name) =
        [(some f.name, f.codec.encode a)] := List.filter_eq_self.mpr (by simp)
    simp only [Bool.false_eq_true, if_false, hone]

section
variable {α : Type} {f : Field α} {s : Content α}

theorem Faithful.readable (h : f.Faithful s) (a : α) : ∀ m ∈ f.member a, m.2.Readable := by
  unfold member
  split
  · nofun
  · exact List.forall_mem_singleton.mpr (h.codec.readable a)

theorem Faithful.reads (h : f.Faithful s) {a : α} (ha : s.Written a)
    {before after : List (Label × Value)} (hbefore : ∀ m ∈ before, m.1 ≠ some f.name)
    (hafter : ∀ m ∈ after, m.1 ≠ some f.name) :
    f.ofMembers? (before ++ f.member a ++ after) = some (s.kept a) := by
  rw [ofMembers?_member f a hbefore hafter]
  split
  · rename_i hskip
    have habsent := h.skipped a hskip
    rw [h.codec.kept_eq a (h.absent a habsent).optional_finite, habsent]
  · exact h.codec.reads a ha

theorem Faithful.refuses (h : f.Faithful s) {a : α} (ha : ¬AllFinite (s.required a))
    {before after : List (Label × Value)} (hbefore : ∀ m ∈ before, m.1 ≠ some f.name)
    (hafter : ∀ m ∈ after, m.1 ≠ some f.name) :
    f.ofMembers? (before ++ f.member a ++ after) = none := by
  rw [ofMembers?_member f a hbefore hafter]
  split
  · rename_i hskip
    exact absurd (h.absent a (h.skipped a hskip)).required_finite ha
  · exact h.codec.refuses a ha

theorem Faithful.whole (h : f.Faithful s) {ms : List (Label × Value)} {a : α}
    (hread : f.ofMembers? ms = some a) : s.Whole a := by
  unfold ofMembers? at hread
  split at hread
  · exact h.absent a hread
  · exact h.codec.whole _ a hread
  · cases hread

end

end Field

/-! ### Records -/

/-- All fields of a record obey the laws. -/
inductive Fields.Faithful : {τ : Type} → Fields τ → Content τ → Prop where
  | nil : Faithful .nil (.plain Unit)
  | cons {α β : Type} {f : Field α} {s : Content α} {rest : Fields β} {t : Content β}
    (hf : f.Faithful s) (hrest : rest.Faithful t) : Faithful (.cons f rest) (s.pair t)

namespace Fields

/-- A label that is not the name of a field. -/
def Foreign {τ : Type} (fields : Fields τ) (label : Label) : Prop :=
  ∀ name ∈ fields.names, label ≠ some name

theorem label_mem_names {τ : Type} (fields : Fields τ) (a : τ) :
    ∀ m ∈ fields.members a, ∃ name ∈ fields.names, m.1 = some name := by
  induction fields with
  | nil => nofun
  | cons f rest ih =>
    obtain ⟨a, as⟩ := a
    refine List.forall_mem_append.mpr ⟨?_, ?_⟩
    · unfold Field.member
      split
      · nofun
      · exact List.forall_mem_singleton.mpr ⟨f.name, List.mem_cons_self, rfl⟩
    · intro m hm
      obtain ⟨name, hname, hlabel⟩ := ih as m hm
      exact ⟨name, List.mem_cons_of_mem f.name hname, hlabel⟩

theorem ne_of_mem_members {τ : Type} (fields : Fields τ) {name : String}
    (h : name ∉ fields.names) (a : τ) :
    ∀ m ∈ fields.members a, m.1 ≠ some name := by
  intro m hm heq
  obtain ⟨name', hname', hlabel⟩ := fields.label_mem_names a m hm
  obtain rfl := Option.some.inj (heq.symm.trans hlabel)
  exact h hname'

/-- Members that come before those of the other fields, that of the first field among them. -/
theorem foreign_append_member {α β : Type} {f : Field α} {rest : Fields β}
    (hname : f.name ∉ rest.names) {before : List (Label × Value)}
    (hbefore : ∀ m ∈ before, (cons f rest).Foreign m.1) (a : α) :
    ∀ m ∈ before ++ f.member a, rest.Foreign m.1 := by
  refine List.forall_mem_append.mpr ⟨?_, ?_⟩
  · intro m hm name hmem
    exact hbefore m hm name (List.mem_cons_of_mem f.name hmem)
  · unfold Field.member
    split
    · nofun
    · refine List.forall_mem_singleton.mpr ?_
      intro name hmem heq
      obtain rfl := Option.some.inj heq
      exact hname hmem

section
variable {τ : Type} {fields : Fields τ} {s : Content τ}

theorem Faithful.readable (h : fields.Faithful s) (a : τ) :
    ∀ m ∈ fields.members a, m.2.Readable := by
  induction h with
  | nil => nofun
  | cons hf _ ih => exact List.forall_mem_append.mpr ⟨hf.readable a.1, ih a.2⟩

/-- The members are found where they were put, whatever others come before them. -/
theorem Faithful.reads (h : fields.Faithful s) (hnames : fields.names.Nodup) {a : τ}
    (ha : s.Written a) (before : List (Label × Value))
    (hbefore : ∀ m ∈ before, fields.Foreign m.1) :
    fields.ofMembers? (before ++ fields.members a) = some (s.kept a) := by
  induction h generalizing before with
  | nil => rfl
  | @cons α β f s rest t hf _ ih =>
    obtain ⟨a, as⟩ := a
    obtain ⟨ha, has⟩ := Content.written_pair.mp ha
    obtain ⟨hname, hnames⟩ := List.nodup_cons.mp hnames
    have hfirst := hf.reads ha (fun m hm => hbefore m hm f.name List.mem_cons_self)
      (rest.ne_of_mem_members hname as)
    -- for the other fields, this member is one of those before theirs
    have hothers := ih hnames has (before ++ f.member a) (foreign_append_member hname hbefore a)
    rw [members, ← List.append_assoc, ofMembers?, hfirst, hothers]
    rfl

theorem Faithful.refuses (h : fields.Faithful s) (hnames : fields.names.Nodup) {a : τ}
    (ha : ¬AllFinite (s.required a)) (before : List (Label × Value))
    (hbefore : ∀ m ∈ before, fields.Foreign m.1) :
    fields.ofMembers? (before ++ fields.members a) = none := by
  induction h generalizing before with
  | nil => exact absurd allFinite_nil ha
  | @cons α β f s rest t hf _ ih =>
    obtain ⟨a, as⟩ := a
    obtain ⟨hname, hnames⟩ := List.nodup_cons.mp hnames
    rw [members, ← List.append_assoc, ofMembers?]
    -- the first member is refused, or one of the others
    by_cases hfinite : AllFinite (s.required a)
    · have has : ¬AllFinite (t.required as) :=
        fun has => ha (allFinite_append.mpr ⟨hfinite, has⟩)
      rw [ih hnames has (before ++ f.member a) (foreign_append_member hname hbefore a)]
      cases f.ofMembers? (before ++ f.member a ++ rest.members as) <;> rfl
    · rw [hf.refuses hfinite (fun m hm => hbefore m hm f.name List.mem_cons_self)
        (rest.ne_of_mem_members hname as)]
      rfl

theorem Faithful.whole_members (h : fields.Faithful s) {ms : List (Label × Value)} {a : τ}
    (hread : fields.ofMembers? ms = some a) : s.Whole a := by
  induction h with
  | nil => exact Content.whole_plain a
  | cons hf _ ih =>
    rw [ofMembers?] at hread
    obtain ⟨x, hx, hread⟩ := Option.bind_eq_some_iff.mp hread
    obtain ⟨xs, hxs, hread⟩ := Option.bind_eq_some_iff.mp hread
    cases hread
    exact (hf.whole hx).pair (ih hxs)

theorem Faithful.whole_items (h : fields.Faithful s) {vs : List Value} {a : τ}
    (hread : fields.ofItems? vs = some a) : s.Whole a := by
  induction h generalizing vs with
  | nil => exact Content.whole_plain a
  | cons hf _ ih =>
    cases vs with
    | nil =>
      rw [ofItems?] at hread
      obtain ⟨x, hx, hread⟩ := Option.bind_eq_some_iff.mp hread
      obtain ⟨xs, hxs, hread⟩ := Option.bind_eq_some_iff.mp hread
      cases hread
      exact (hf.missing x hx).pair (ih hxs)
    | cons v vs =>
      rw [ofItems?] at hread
      obtain ⟨x, hx, hread⟩ := Option.bind_eq_some_iff.mp hread
      obtain ⟨xs, hxs, hread⟩ := Option.bind_eq_some_iff.mp hread
      cases hread
      exact (hf.codec.whole v x hx).pair (ih hxs)

theorem Faithful.kept_eq (h : fields.Faithful s) {a : τ} (ha : AllFinite (s.optional a)) :
    s.kept a = a := by
  induction h with
  | nil => rfl
  | cons hf _ ih =>
    obtain ⟨a, as⟩ := a
    obtain ⟨ha, has⟩ := allFinite_append.mp ha
    exact Prod.ext (hf.codec.kept_eq a ha) (ih has)

end

end Fields

namespace Codec

/-- The members of a record are read from the object that they were put in. -/
theorem decode_encode_record {α τ : Type} (fields : Fields τ) (split : α → τ) (join : τ → α)
    (a : α) :
    (record fields split join).decode ((record fields split join).encode a) =
      (fields.ofMembers? (fields.members (split a))).map join := by
  have hlabels : (fields.members (split a)).all (·.1.isSome) = true := by
    refine List.all_eq_true.mpr fun m hm => ?_
    obtain ⟨name, _, hlabel⟩ := fields.label_mem_names (split a) m hm
    rw [hlabel]
    rfl
  show (if (fields.members (split a)).all (·.1.isSome) then _ else none) = _
  rw [if_pos hlabels]

/-- A record obeys the laws if its fields do and have different names. -/
theorem faithful_record {α τ : Type} {fields : Fields τ} {s : Content τ} {split : α → τ}
    {join : τ → α} (h : fields.Faithful s) (hnames : fields.names.Nodup)
    (hsplit : ∀ t, split (join t) = t)    (hjoin : ∀ a, join (split a) = a) :
    (record fields split join).Faithful (s.along split join) where
  readable a := Value.readable_object.mpr (h.readable (split a))
  reads a ha := by
    have hread := h.reads hnames
      (⟨ha.fits, ha.required_finite, ha.required_readBack, ha.optional_readBack⟩ :
        s.Written (split a)) [] nofun
    rw [List.nil_append] at hread
    rw [decode_encode_record, hread, Option.map_some]
    rfl
  refuses a ha := by
    have hread := h.refuses hnames ha [] nofun
    rw [List.nil_append] at hread
    rw [decode_encode_record, hread, Option.map_none]
  whole v a hread := by
    -- a record may also be read from an array of its members
    have hwhole : ∃ t, s.Whole t ∧ join t = a := by
      cases v with
      | object ms =>
        have hread' : (if ms.all (·.1.isSome) then (fields.ofMembers? ms).map join
            else none) = some a := hread
        split at hread'
        · obtain ⟨t, ht, hta⟩ := Option.map_eq_some_iff.mp hread'
          exact ⟨t, h.whole_members ht, hta⟩
        · cases hread'
      | array vs =>
        obtain ⟨t, ht, hta⟩ := Option.map_eq_some_iff.mp hread
        exact ⟨t, h.whole_items ht, hta⟩
      | _ => cases hread
    obtain ⟨t, ht, rfl⟩ := hwhole
    rw [← hsplit t] at ht
    exact ⟨ht.fits, ht.required_finite, ht.optional_finite⟩
  kept_eq a ha := by
    show join (s.kept (split a)) = a
    rw [h.kept_eq ha, hjoin]

theorem encode_record_ne_null {α τ : Type} (fields : Fields τ) (split : α → τ) (join : τ → α)
    (a : α) : (record fields split join).encode a ≠ .null := nofun

/-- The laws hold for any other description of the same content. -/
theorem Faithful.congr {α : Type} {c : Codec α} {s t : Content α} (h : c.Faithful s)
    (hrequired : ∀ a, t.required a = s.required a)
    (hoptional : ∀ a, t.optional a = s.optional a)
    (hfits : ∀ a, t.fits a ↔ s.fits a) (hkept : ∀ a, t.kept a = s.kept a) : c.Faithful t := by
  have heq : t = s := by
    obtain ⟨required, optional, fits, kept⟩ := t
    obtain rfl : required = s.required := funext hrequired
    obtain rfl : optional = s.optional := funext hoptional
    obtain rfl : fits = s.fits := funext fun a => propext (hfits a)
    obtain rfl : kept = s.kept := funext hkept
    rfl
  rw [heq]
  exact h

/-! ### Texts -/

/-- The texts of a value: compact, indented, and as a file with a line feed at its end. -/
def texts {α : Type} (c : Codec α) (a : α) : List String :=
  [c.print a, c.printIndented a, c.printIndented a ++ "\n"]

/-- What a codec makes of its own texts and of those of others. -/
structure RoundTrips {α : Type} (c : Codec α) (s : Content α) : Prop where
  /-- If all floats that must be there are finite, the texts of a value give it back
  without the optional floats that are not finite. -/
  reads : ∀ a, s.Written a → ∀ text ∈ c.texts a, c.read? text = some (s.kept a)
  /-- A value whose optional floats are finite is kept as it is. -/
  kept_eq : ∀ a, AllFinite (s.optional a) → s.kept a = a
  /-- A value without a finite float where there must be one has no text that is read. -/
  refuses : ∀ a, ¬AllFinite (s.required a) → ∀ text ∈ c.texts a, c.read? text = none
  /-- What was read from any text is read from its own texts again, and written as the
  same texts. -/
  rereads : ∀ text a, c.read? text = some a → AllReadBack (s.required a) →
    AllReadBack (s.optional a) →
    ∀ text' ∈ c.texts a, c.read? text' = some a ∧ (c.read? text').map c.texts = some (c.texts a)

theorem read?_texts {α : Type} {c : Codec α} {s : Content α} (h : c.Faithful s) (a : α) :
    ∀ text ∈ c.texts a, c.read? text = c.decode (c.encode a) := by
  have hread {text : String} (htext : Value.parse? text = some (c.encode a)) :
      c.read? text = c.decode (c.encode a) := by
    rw [read?, htext, Option.bind_some]
  intro text htext
  simp only [texts, List.mem_cons, List.not_mem_nil, or_false] at htext
  obtain rfl | rfl | rfl := htext
  · exact hread (Value.parse_compact (h.readable a))
  · exact hread (Value.parse_indented (h.readable a))
  · exact hread (Value.parse_indented_append (h.readable a) "\n" (by decide))

/-- **A codec that obeys the laws reads its own texts.** -/
theorem Faithful.roundTrips {α : Type} {c : Codec α} {s : Content α} (h : c.Faithful s) :
    c.RoundTrips s where
  reads a ha text htext := by
    rw [read?_texts h a text htext, h.reads a ha]
  kept_eq := h.kept_eq
  refuses a ha text htext := by
    rw [read?_texts h a text htext, h.refuses a ha]
  rereads text a hread hrequired hoptional text' htext' := by
    obtain ⟨v, _, hv⟩ := Option.bind_eq_some_iff.mp hread
    -- whatever text the value came from, its own texts can hold it
    have hwhole := h.whole v a hv
    have hagain : c.read? text' = some a := by
      rw [read?_texts h a text' htext',
        h.reads a ⟨hwhole.fits, hwhole.required_finite, hrequired, hoptional⟩,
        h.kept_eq a hwhole.optional_finite]
    exact ⟨hagain, by rw [hagain, Option.map_some]⟩

end Codec

end Stopwatch.Json
