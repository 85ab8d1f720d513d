import Mathlib.Data.List.Perm.Basic
import Mathlib.Logic.Relation
import Stopwatch.Json.Codec
import Stopwatch.Proofs.Json.Parse

/-!
# Edits of a document

What may be done to a document before it is read. Other writers put the members of a record in another
order, add members of their own, leave out those that hold the default of their field, and spread the
text over lines: nothing of this changes what is read. A document in which a member is missing that has
no default, or is written twice, is not read at all, however deep in it the record stands.

- `Spaced`: a gap is put between two tokens of a text; `Value.Spelled`: a text of a value with any number
  of gaps;
- `Fields.Tolerated`: one edit of the members of a record that changes nothing, and `Fields.Spoiled`: one
  that makes the record unreadable;
- `Codec.Within`: a change to the members of one record somewhere in a value;
- `Codec.Edits.decode_eq`, `Codec.Damage.decode_eq_none`: what is read of a value after edits.
-/

namespace Stopwatch.Json

/-! ### Gaps -/

namespace Lexer

/-- The lexer with other tokens found before its own. -/
def behind (before : List Token) (l : Lexer) : Lexer := ⟨l.place, l.tokens ++ before⟩

theorem between_append (tokens before : List Token) (c : Char) :
    between (tokens ++ before) c = (between tokens c).behind before := by
  unfold between
  split_ifs
  · rfl
  · rfl
  · split <;> rfl

/-- A character is taken without a look at the tokens that were found. -/
theorem step_behind (l : Lexer) (before : List Token) (c : Char) :
    step (l.behind before) c = (step l c).map (behind before) := by
  obtain ⟨place, tokens⟩ := l
  cases place with
  | gap => exact congrArg some (between_append tokens before c)
  | run seen =>
    simp only [step, behind]
    split
    · rw [Option.map_map]
      exact Option.map_congr fun t _ => between_append (t :: tokens) before c
    · rfl
  | text parts =>
    simp only [step, behind]
    split_ifs <;> rfl
  | escape parts =>
    simp only [step, behind]
    split
    · rfl
    · rw [Option.map_map]
      rfl
  | hex parts left value =>
    simp only [step, behind]
    rw [Option.map_map]
    refine Option.map_congr fun d _ => ?_
    simp only [Function.comp]
    split <;> rfl

theorem finish_behind (l : Lexer) (before : List Token) :
    finish (l.behind before) = (finish l).map (before.reverse ++ ·) := by
  obtain ⟨place, tokens⟩ := l
  cases place with
  | gap => exact congrArg some List.reverse_append
  | run seen =>
    simp only [finish, behind]
    rw [Option.map_map]
    refine Option.map_congr fun t _ => ?_
    exact @List.reverse_append _ (t :: tokens) before
  | _ => rfl

end Lexer

open Lexer

theorem scanFrom_behind (cs : List Char) (l : Lexer) (before : List Token) :
    scanFrom (l.behind before) cs = (scanFrom l cs).map (before.reverse ++ ·) := by
  induction cs generalizing l with
  | nil => exact finish_behind l before
  | cons c cs ih =>
    rw [scanFrom_cons, scanFrom_cons, step_behind]
    cases step l c with
    | none => rfl
    | some l' => exact ih l'

/-- A text scans as its tokens wherever it stands between others. -/
theorem scansAs_of_scan {cs : List Char} {ts : List Token} (h : scan cs = some ts) :
    ScansAs cs ts := by
  intro before
  have hstart : scanFrom ⟨.gap, []⟩ cs = some ts := h
  have hbehind := scanFrom_behind cs ⟨.gap, []⟩ before
  rw [hstart] at hbehind
  exact hbehind

/-- A blank ends what stands before it as the end of the text would. -/
theorem step_gap_of_finish {l : Lexer} {ts : List Token} (h : finish l = some ts) {c : Char}
    (hc : isGap c = true) : step l c = some ⟨.gap, ts.reverse⟩ := by
  have hends : endsRun c = true := by
    unfold endsRun
    rw [hc, Bool.true_or, Bool.true_or]
  obtain ⟨place, tokens⟩ := l
  cases place with
  | gap =>
    obtain rfl := Option.some.inj h
    simp only [step, between, hc, if_true, List.reverse_reverse]
  | run seen =>
    obtain ⟨t, ht, rfl⟩ := Option.map_eq_some_iff.mp h
    simp only [step, between, hends, hc, ht, if_true, Option.map_some, List.reverse_reverse]
  | _ => cases h

/-- Two texts with a gap between them scan as their tokens. -/
theorem scan_append_gaps {a b gaps : List Char} {ts us : List Token} (ha : scan a = some ts)
    (hb : scan b = some us) (hgaps : Gaps gaps) (hne : gaps ≠ []) :
    scan (a ++ gaps ++ b) = some (ts ++ us) := by
  obtain ⟨l, hread, hfinish⟩ := Option.bind_eq_some_iff.mp ha
  cases gaps with
  | nil => exact absurd rfl hne
  | cons c gaps =>
    obtain ⟨hc, hgaps⟩ := List.forall_mem_cons.mp hgaps
    have hrest := scansAs_gaps hgaps (scansAs_of_scan hb) ts.reverse
    rw [List.reverse_reverse] at hrest
    have hfrom : scan (a ++ c :: gaps ++ b) = scanFrom l (c :: (gaps ++ b)) := by
      unfold scan scanFrom
      rw [List.append_assoc, List.foldlM_append, hread]
      rfl
    rw [hfrom, scanFrom_cons_some (step_gap_of_finish hfinish hc), hrest]

/-- A gap is put at a place where a text falls into two: its tokens are those of the one part and
those of the other. -/
inductive Spaced : String → String → Prop where
  | gap {a b gaps : String} {ts us : List Token} (hgaps : Gaps gaps.toList)
    (ha : scan a.toList = some ts) (hb : scan b.toList = some us)
    (htext : scan (a ++ b).toList = some (ts ++ us)) : Spaced (a ++ b) (a ++ gaps ++ b)

/-- White space between tokens is nothing. -/
theorem Spaced.parse?_eq {text text' : String} (h : Spaced text text') :
    Value.parse? text' = Value.parse? text := by
  obtain @⟨a, b, gaps, ts, us, hgaps, ha, hb, htext⟩ := h
  unfold Value.parse?
  rw [htext]
  by_cases hne : gaps.toList = []
  · rw [String.toList_append, String.toList_append, hne, List.append_nil, ← String.toList_append,
      htext]
  · rw [String.toList_append, String.toList_append, scan_append_gaps ha hb hgaps hne]

/-- A text of a value, into which gaps were put between tokens. -/
def Value.Spelled (v : Value) (text : String) : Prop :=
  ∃ dense, Value.parse? dense = some v ∧ Relation.ReflTransGen Spaced dense text

/-- **White space between tokens is nothing**, however much there is. -/
theorem Value.Spelled.parse?_eq {v : Value} {text : String} (h : v.Spelled text) :
    Value.parse? text = some v := by
  obtain ⟨dense, hdense, hspaced⟩ := h
  induction hspaced with
  | refl => exact hdense
  | tail _ hlast ih => rw [hlast.parse?_eq, ih]

/-! ### Members of a record -/

/-- The record has this field, and no other field of its name. -/
inductive Fields.Has {α : Type} (f : Field α) : {τ : Type} → Fields τ → Prop where
  | here {β : Type} {rest : Fields β} (h : f.name ∉ rest.names) : Has f (.cons f rest)
  | there {β γ : Type} {g : Field β} {rest : Fields γ} (hne : g.name ≠ f.name) (h : Has f rest) :
    Has f (.cons g rest)

namespace Field

variable {α : Type} (f : Field α) {ms ms' before after : List (Label × Value)}

/-- A member that is written is read if it is not written again. -/
theorem ofMembers?_written (v : Value) :
    f.ofMembers? (before ++ (some f.name, v) :: after) =
      if (before ++ after).filter (·.1 == some f.name) = [] then f.codec.decode v else none := by
  have hself : ((some f.name, v) :: after).filter (·.1 == some f.name) =
      (some f.name, v) :: after.filter (·.1 == some f.name) :=
    List.filter_cons_of_pos (beq_self_eq_true _)
  unfold ofMembers?
  rw [List.filter_append, hself, List.filter_append]
  cases before.filter (·.1 == some f.name) with
  | nil =>
    cases after.filter (·.1 == some f.name) with
    | nil => rfl
    | cons m rest => rfl
  | cons m rest => cases rest <;> rfl

theorem ofMembers?_of_not_written (h : ∀ m ∈ ms, m.1 ≠ some f.name) :
    f.ofMembers? ms = f.absent := by
  have hnone : ms.filter (·.1 == some f.name) = [] :=
    List.filter_eq_nil_iff.mpr fun m hm heq => h m hm (eq_of_beq heq)
  unfold ofMembers?
  rw [hnone]

theorem ofMembers?_of_twice (h : 2 ≤ ms.countP (·.1 == some f.name)) : f.ofMembers? ms = none := by
  rw [List.countP_eq_length_filter] at h
  unfold ofMembers?
  cases hms : ms.filter (·.1 == some f.name) with
  | nil =>
    rw [hms] at h
    exact absurd h (by decide)
  | cons m rest =>
    cases rest with
    | nil =>
      rw [hms] at h
      exact absurd h (by simp)
    | cons _ _ => rfl

/-- A member of another name is not looked at. -/
theorem ofMembers?_insert {label : Label} (hne : label ≠ some f.name) (v : Value) :
    f.ofMembers? (before ++ (label, v) :: after) = f.ofMembers? (before ++ after) := by
  have hother : ((label, v) :: after).filter (·.1 == some f.name) =
      after.filter (·.1 == some f.name) :=
    List.filter_cons_of_neg fun heq => hne (eq_of_beq heq)
  unfold ofMembers?
  rw [List.filter_append, List.filter_append, hother]

/-- The order of the members is not looked at. -/
theorem ofMembers?_perm (h : ms.Perm ms') : f.ofMembers? ms' = f.ofMembers? ms := by
  have hfilter := h.filter (·.1 == some f.name)
  cases hms : ms.filter (·.1 == some f.name) with
  | nil =>
    rw [hms] at hfilter
    rw [ofMembers?, ofMembers?, hms, List.nil_perm.mp hfilter]
  | cons m rest =>
    cases rest with
    | nil =>
      rw [hms] at hfilter
      rw [ofMembers?, ofMembers?, hms, List.singleton_perm.mp hfilter]
    | cons n rest =>
      have htwice : 2 ≤ ms.countP (·.1 == some f.name) := by
        rw [List.countP_eq_length_filter, hms, List.length_cons, List.length_cons]
        omega
      rw [f.ofMembers?_of_twice htwice, f.ofMembers?_of_twice (h.countP_eq _ ▸ htwice)]

end Field

namespace Fields

variable {τ : Type} {fields : Fields τ} {ms ms' before after : List (Label × Value)}

theorem ofMembers?_congr
    (h : ∀ {α : Type} (f : Field α), f.name ∈ fields.names → f.ofMembers? ms' = f.ofMembers? ms) :
    fields.ofMembers? ms' = fields.ofMembers? ms := by
  induction fields with
  | nil => rfl
  | cons f rest ih =>
    have hrest := ih fun g hg => h g (List.mem_cons_of_mem f.name hg)
    rw [ofMembers?, ofMembers?, h f List.mem_cons_self, hrest]

/-- Reading a record depends on one member only by what is read of it. -/
theorem Has.ofMembers?_congr {α : Type} {f : Field α} (hf : fields.Has f)
    (h : f.ofMembers? ms' = f.ofMembers? ms)
    (hothers : ∀ {β : Type} (g : Field β), g.name ≠ f.name → g.ofMembers? ms' = g.ofMembers? ms) :
    fields.ofMembers? ms' = fields.ofMembers? ms := by
  induction hf with
  | here hname =>
    have hrest := Fields.ofMembers?_congr fun g hg => hothers g fun heq => hname (heq ▸ hg)
    rw [ofMembers?, ofMembers?, h, hrest]
  | there hne _ ih => rw [ofMembers?, ofMembers?, hothers _ hne, ih]

/-- A record is refused for one of its members. -/
theorem Has.ofMembers?_eq_none {α : Type} {f : Field α} (hf : fields.Has f)
    (h : f.ofMembers? ms = none) : fields.ofMembers? ms = none := by
  induction hf with
  | here _ =>
    rw [ofMembers?, h]
    rfl
  | @there _ _ g _ _ _ ih =>
    rw [ofMembers?, ih]
    cases g.ofMembers? ms <;> rfl

/-- A change to the members of a record that others may make. -/
inductive Tolerated {τ : Type} (fields : Fields τ) :
    List (Label × Value) → List (Label × Value) → Prop where
  /-- The members are put in another order. -/
  | reorder {ms ms' : List (Label × Value)} (h : ms.Perm ms') : Tolerated fields ms ms'
  /-- A member is added that the record does not know. -/
  | insert (before after : List (Label × Value)) {name : String} (hname : name ∉ fields.names)
    (v : Value) : Tolerated fields (before ++ after) (before ++ (some name, v) :: after)
  /-- A member is left out that holds the default of its field. -/
  | drop (before after : List (Label × Value)) {α : Type} {f : Field α} {v : Value} {a : α}
    (hf : fields.Has f) (hdefault : f.absent = some a) (hv : f.codec.decode v = some a)
    (honly : ∀ m ∈ before ++ after, m.1 ≠ some f.name) :
    Tolerated fields (before ++ (some f.name, v) :: after) (before ++ after)

/-- A change to the members of a record that no reader can make up for. -/
inductive Spoiled {τ : Type} (fields : Fields τ) :
    List (Label × Value) → List (Label × Value) → Prop where
  /-- A member is left out that must be there. -/
  | remove (before after : List (Label × Value)) {α : Type} {f : Field α} {v : Value}
    (hf : fields.Has f) (hmandatory : f.absent = none)
    (honly : ∀ m ∈ before ++ after, m.1 ≠ some f.name) :
    Spoiled fields (before ++ (some f.name, v) :: after) (before ++ after)
  /-- Members are added, so that the one of a field is there twice. -/
  | repeated {ms ms' : List (Label × Value)} {α : Type} {f : Field α} (hf : fields.Has f)
    (hms : ms.Sublist ms') (htwice : 2 ≤ ms'.countP (·.1 == some f.name)) : Spoiled fields ms ms'

theorem Tolerated.all_isSome_eq (h : fields.Tolerated ms ms') :
    ms'.all (·.1.isSome) = ms.all (·.1.isSome) := by
  cases h with
  | reorder h => exact h.symm.all_eq
  | insert _ _ _ _ => simp [List.all_append]
  | drop _ _ _ _ _ _ => simp [List.all_append]

theorem Tolerated.ofMembers?_eq (h : fields.Tolerated ms ms') :
    fields.ofMembers? ms' = fields.ofMembers? ms := by
  cases h with
  | reorder h => exact Fields.ofMembers?_congr fun f _ => f.ofMembers?_perm h
  | @insert _ _ name hname v =>
    refine Fields.ofMembers?_congr fun f hf => f.ofMembers?_insert ?_ v
    intro heq
    obtain rfl := Option.some.inj heq
    exact hname hf
  | @drop _ _ _ f v a hf hdefault hv honly =>
    have hnone := List.filter_eq_nil_iff.mpr fun m hm heq => honly m hm (eq_of_beq heq)
    refine hf.ofMembers?_congr ?_ fun g hne => ?_
    · rw [f.ofMembers?_of_not_written honly, f.ofMembers?_written, if_pos hnone, hdefault, hv]
    · exact (g.ofMembers?_insert (fun heq => hne (Option.some.inj heq).symm) v).symm

theorem Spoiled.ofMembers?_eq_none (h : fields.Spoiled ms ms') : fields.ofMembers? ms' = none := by
  cases h with
  | @remove _ _ _ f v hf hmandatory honly =>
    exact hf.ofMembers?_eq_none ((f.ofMembers?_of_not_written honly).trans hmandatory)
  | @repeated _ _ _ f hf _ htwice => exact hf.ofMembers?_eq_none (f.ofMembers?_of_twice htwice)

end Fields

/-! ### Values -/

namespace Codec

/-- A change to the members of one record, which is the value or stands somewhere in it. -/
inductive Within
    (R : (τ : Type) → Fields τ → List (Label × Value) → List (Label × Value) → Prop) :
    {α : Type} → Codec α → Value → Value → Prop where
  | record {α τ : Type} {fields : Fields τ} {split : α → τ} {join : τ → α}
    {ms ms' : List (Label × Value)} (h : R τ fields ms ms') :
    Within R (.record fields split join) (.object ms) (.object ms')
  /-- In a member that the record knows. -/
  | member {α β τ : Type} {fields : Fields τ} {split : α → τ} {join : τ → α}
    (before after : List (Label × Value)) {f : Field β} {v w : Value} (hf : fields.Has f)
    (h : Within R f.codec v w) :
    Within R (.record fields split join) (.object (before ++ (some f.name, v) :: after))
      (.object (before ++ (some f.name, w) :: after))
  | item {α : Type} {c : Codec α} (before after : List Value) {v w : Value} (h : Within R c v w) :
    Within R c.list (.array (before ++ v :: after)) (.array (before ++ w :: after))
  | nullable {α : Type} {c : Codec α} {v w : Value} (h : Within R c v w) :
    Within R c.nullable v w

/-- One edit of a value that changes nothing for a reader. -/
abbrev Edit {α : Type} (c : Codec α) : Value → Value → Prop :=
  Within @Fields.Tolerated c

/-- Any number of edits, one after the other. -/
abbrev Edits {α : Type} (c : Codec α) : Value → Value → Prop := Relation.ReflTransGen c.Edit

/-- One change to a value that makes it unreadable. -/
abbrev Damage {α : Type} (c : Codec α) : Value → Value → Prop :=
  Within @Fields.Spoiled c

section
variable {R : (τ : Type) → Fields τ → List (Label × Value) → List (Label × Value) → Prop}
variable {α : Type} {c : Codec α} {v w : Value}

/-- What stands in a container is never `null`. -/
theorem Within.ne_null (h : Within R c v w) : v ≠ .null ∧ w ≠ .null := by
  induction h with
  | record _ => exact ⟨nofun, nofun⟩
  | member _ _ _ _ _ => exact ⟨nofun, nofun⟩
  | item _ _ _ _ => exact ⟨nofun, nofun⟩
  | nullable _ ih => exact ih

end

theorem decode_nullable {α : Type} (c : Codec α) {v : Value} (hv : v ≠ .null) :
    c.nullable.decode v = (c.decode v).map some := by
  cases v <;> first | rfl | exact absurd rfl hv

section
variable {α : Type} {c : Codec α} {v w : Value}

/-- An edit changes nothing. -/
theorem Edit.decode_eq (h : c.Edit v w) : c.decode w = c.decode v := by
  induction h with
  | @record _ _ fields split join ms ms' h =>
    show (if _ then _ else _) = if _ then _ else _
    rw [h.all_isSome_eq, h.ofMembers?_eq]
  | @member _ _ _ fields split join before after f v w hf _ ih =>
    have hproper : (before ++ (some f.name, w) :: after).all (·.1.isSome) =
        (before ++ (some f.name, v) :: after).all (·.1.isSome) := by
      simp [List.all_append]
    have hmembers : fields.ofMembers? (before ++ (some f.name, w) :: after) =
        fields.ofMembers? (before ++ (some f.name, v) :: after) := by
      -- the other fields do not look at this member
      refine hf.ofMembers?_congr ?_ fun g hne => ?_
      · rw [f.ofMembers?_written, f.ofMembers?_written, ih]
      · have hother : (some f.name : Label) ≠ some g.name :=
          fun heq => hne (Option.some.inj heq).symm
        rw [g.ofMembers?_insert hother, g.ofMembers?_insert hother]
    show (if _ then _ else _) = if _ then _ else _
    rw [hproper, hmembers]
  | @item _ c before after v w _ ih =>
    show (before ++ w :: after).mapM c.decode = (before ++ v :: after).mapM c.decode
    rw [List.mapM_append, List.mapM_append, List.mapM_cons, List.mapM_cons, ih]
  | nullable h ih =>
    obtain ⟨hv, hw⟩ := h.ne_null
    rw [decode_nullable _ hv, decode_nullable _ hw, ih]

/-- **Edits change nothing**, however many there are. -/
theorem Edits.decode_eq (h : c.Edits v w) : c.decode w = c.decode v := by
  induction h with
  | refl => rfl
  | tail _ hlast ih => rw [Edit.decode_eq hlast, ih]

/-- **A value with a damaged record is not read**, wherever the record stands. -/
theorem Damage.decode_eq_none (h : c.Damage v w) : c.decode w = none := by
  induction h with
  | @record _ _ fields split join ms ms' h =>
    show (if _ then (fields.ofMembers? ms').map join else none) = none
    rw [h.ofMembers?_eq_none, Option.map_none, ite_self]
  | @member _ _ _ fields split join before after f v w hf _ ih =>
    have hmember : f.ofMembers? (before ++ (some f.name, w) :: after) = none := by
      rw [f.ofMembers?_written, ih, ite_self]
    show (if _ then (fields.ofMembers? _).map join else none) = none
    rw [hf.ofMembers?_eq_none hmember, Option.map_none, ite_self]
  | @item _ c before after v w _ ih =>
    show (before ++ w :: after).mapM c.decode = none
    rw [List.mapM_append, List.mapM_cons, ih]
    cases before.mapM c.decode <;> rfl
  | nullable h ih => rw [decode_nullable _ h.ne_null.2, ih, Option.map_none]

end

end Codec

end Stopwatch.Json
