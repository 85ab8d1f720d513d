import Stopwatch.Json.Parser
import Stopwatch.Proofs.Json.Scan

/-!
# Parsing what was printed

Wherever the parser expects a value, the tokens of a value leave it with that value
complete and the containers around it as they were. So the tokens of a whole text spell
the value it was printed from, and both texts of a readable value are read back as that
value.

- `parse_compact`, `parse_indented`: both texts are read back.
-/

namespace Stopwatch.Json

namespace Expect

/-- What the parser makes of the rest of the tokens. -/
def feed (e : Expect) (ts : List Token) : Option Expect := ts.foldlM step e

theorem feed_cons (e : Expect) (t : Token) (ts : List Token) :
    e.feed (t :: ts) = (step e t).bind fun e' => e'.feed ts := by
  unfold feed
  rw [List.foldlM_cons]
  cases step e t <;> rfl

theorem feed_cons_some {e e' : Expect} {t : Token} (h : step e t = some e') (ts : List Token) :
    e.feed (t :: ts) = e'.feed ts := by
  rw [feed_cons, h, Option.bind_some]

/-- The tokens of a value, in any place where one is expected, complete exactly this value. -/
def Reads (v : Value) : Prop :=
  ∀ frames rest, (value frames).feed (v.tokens ++ rest) = (more v frames).feed rest

/-- No value begins with a closing bracket. -/
theorem tokens_eq_cons (v : Value) : ∃ t ts, v.tokens = t :: ts ∧ t ≠ .closeArray := by
  cases v with
  | null =>
    rw [Value.tokens]
    exact ⟨_, _, rfl, by simp⟩
  | bool b =>
    rw [Value.tokens]
    exact ⟨_, _, rfl, by simp⟩
  | number n =>
    rw [Value.tokens]
    exact ⟨_, _, rfl, by simp⟩
  | string s =>
    rw [Value.tokens]
    exact ⟨_, _, rfl, by simp⟩
  | array items =>
    rw [Value.tokens]
    exact ⟨_, _, rfl, by simp⟩
  | object members =>
    rw [Value.tokens]
    exact ⟨_, _, rfl, by simp⟩

theorem step_valueOrEnd {t : Token} (h : t ≠ .closeArray) (frames : List Frame) :
    step (valueOrEnd frames) t = step (value (.array [] :: frames)) t := by
  cases t <;> first | rfl | exact absurd rfl h

/-! ### Items and members -/

/-- The rest of the items of an array; `seen` holds those before, last first. -/
theorem feed_items {v : Value} {items : List Value} (h : ∀ w ∈ v :: items, Reads w)
    (seen : List Value) (frames : List Frame) (rest : List Token) :
    (value (.array seen :: frames)).feed
        (Value.itemTokens (v :: items) ++ .closeArray :: rest) =
      (more (.array (seen.reverse ++ v :: items)) frames).feed rest := by
  induction items generalizing v seen with
  | nil =>
    have hv : Reads v := h v List.mem_cons_self
    have hclose : step (more v (.array seen :: frames)) .closeArray =
        some (more (.array (v :: seen).reverse) frames) := rfl
    rw [Value.itemTokens, hv, feed_cons_some hclose, List.reverse_cons]
  | cons w items ih =>
    obtain ⟨hv, hitems⟩ := List.forall_mem_cons.mp h
    have hcomma : step (more v (.array seen :: frames)) .comma =
        some (value (.array (v :: seen) :: frames)) := rfl
    rw [Value.itemTokens, List.append_assoc, List.cons_append, hv, feed_cons_some hcomma,
      ih hitems]
    simp only [List.reverse_cons, List.append_assoc, List.singleton_append]

/-- The rest of the members of an object; `seen` holds those before, last first. -/
theorem feed_members {m : Label × Value} {members : List (Label × Value)}
    (h : ∀ n ∈ m :: members, Reads n.2) (seen : List (Label × Value)) (frames : List Frame)
    (rest : List Token) :
    (name seen frames).feed (Value.memberTokens (m :: members) ++ .closeObject :: rest) =
      (more (.object (seen.reverse ++ m :: members)) frames).feed rest := by
  induction members generalizing m seen with
  | nil =>
    obtain ⟨s, v⟩ := m
    have hv : Reads v := h (s, v) List.mem_cons_self
    have hname : step (name seen frames) (.string s) = some (colon seen s frames) := rfl
    have hcolon : step (colon seen s frames) .colon =
        some (value (.object seen s :: frames)) := rfl
    have hclose : step (more v (.object seen s :: frames)) .closeObject =
        some (more (.object ((s, v) :: seen).reverse) frames) := rfl
    rw [Value.memberTokens, List.cons_append, List.cons_append, feed_cons_some hname,
      feed_cons_some hcolon, hv, feed_cons_some hclose, List.reverse_cons]
  | cons n members ih =>
    obtain ⟨s, v⟩ := m
    obtain ⟨hv, hmembers⟩ := List.forall_mem_cons.mp h
    have hname : step (name seen frames) (.string s) = some (colon seen s frames) := rfl
    have hcolon : step (colon seen s frames) .colon =
        some (value (.object seen s :: frames)) := rfl
    have hcomma : step (more v (.object seen s :: frames)) .comma =
        some (name ((s, v) :: seen) frames) := rfl
    rw [Value.memberTokens, List.cons_append, List.cons_append, List.append_assoc,
      List.cons_append, feed_cons_some hname, feed_cons_some hcolon, hv,
      feed_cons_some hcomma, ih hmembers]
    simp only [List.reverse_cons, List.append_assoc, List.singleton_append]

/-! ### Values -/

theorem reads_array {items : List Value} (h : ∀ v ∈ items, Reads v) : Reads (.array items) := by
  intro frames rest
  have hopen : step (value frames) .openArray = some (valueOrEnd frames) := rfl
  rw [Value.tokens, List.cons_append, feed_cons_some hopen, List.append_assoc,
    List.singleton_append]
  cases items with
  | nil =>
    have hclose : step (valueOrEnd frames) .closeArray = some (more (.array []) frames) := rfl
    rw [Value.itemTokens, List.nil_append, feed_cons_some hclose]
  | cons v items =>
    have hitems := feed_items h [] frames rest
    have hfirst : ∃ t ts, Value.itemTokens (v :: items) = t :: ts ∧ t ≠ .closeArray := by
      obtain ⟨t, ts, htokens, ht⟩ := tokens_eq_cons v
      cases items with
      | nil => exact ⟨t, ts, by rw [Value.itemTokens, htokens], ht⟩
      | cons w items => exact ⟨t, _, by rw [Value.itemTokens, htokens, List.cons_append], ht⟩
    obtain ⟨t, ts, htokens, ht⟩ := hfirst
    -- only a closing bracket tells the start of an array from the place after a comma
    rw [htokens, List.cons_append, feed_cons] at hitems ⊢
    rw [step_valueOrEnd ht]
    exact hitems

theorem reads_object {members : List (Label × Value)} (h : ∀ m ∈ members, Reads m.2) :
    Reads (.object members) := by
  intro frames rest
  have hopen : step (value frames) .openObject = some (nameOrEnd frames) := rfl
  rw [Value.tokens, List.cons_append, feed_cons_some hopen, List.append_assoc,
    List.singleton_append]
  cases members with
  | nil =>
    have hclose : step (nameOrEnd frames) .closeObject = some (more (.object []) frames) := rfl
    rw [Value.memberTokens, List.nil_append, feed_cons_some hclose]
  | cons m members =>
    have hmembers := feed_members h [] frames rest
    obtain ⟨s, v⟩ := m
    have hfirst : ∃ ts, Value.memberTokens ((s, v) :: members) = .string s :: ts := by
      cases members with
      | nil => exact ⟨_, by rw [Value.memberTokens]⟩
      | cons n members => exact ⟨_, by rw [Value.memberTokens]⟩
    obtain ⟨ts, htokens⟩ := hfirst
    -- the first name is taken as one after a comma is, with no member before it
    have hname : step (nameOrEnd frames) (.string s) = step (name [] frames) (.string s) := rfl
    rw [htokens, List.cons_append, feed_cons] at hmembers ⊢
    rw [hname]
    exact hmembers

theorem reads (v : Value) : Reads v := by
  induction v using Value.nested_induction with
  | null =>
    intro frames rest
    rw [Value.tokens]
    exact feed_cons_some rfl rest
  | bool b =>
    intro frames rest
    rw [Value.tokens]
    exact feed_cons_some rfl rest
  | number n =>
    intro frames rest
    rw [Value.tokens]
    exact feed_cons_some rfl rest
  | string s =>
    intro frames rest
    rw [Value.tokens]
    exact feed_cons_some rfl rest
  | array items ih => exact reads_array ih
  | object members ih => exact reads_object ih

end Expect

namespace Value

/-- The tokens of a value spell it. -/
theorem ofTokens?_tokens (v : Value) : ofTokens? v.tokens = some v := by
  have hfeed := Expect.reads v [] []
  rw [List.append_nil] at hfeed
  unfold Expect.feed at hfeed
  rw [ofTokens?, hfeed]
  rfl

/-- **Compact text is read back.** -/
theorem parse_compact {v : Value} (h : v.Readable) : parse? v.compact = some v := by
  rw [parse?, compact, String.toList_ofList, scan_compact h, Option.bind_some, ofTokens?_tokens]

/-- Indented text is read back with line feeds or other gaps at its end. -/
theorem parse_indented_append {v : Value} (h : v.Readable) (gaps : String)
    (hgaps : Gaps gaps.toList) : parse? (v.indented ++ gaps) = some v := by
  rw [parse?, indented, String.toList_append, String.toList_ofList, scan_indented h hgaps,
    Option.bind_some, ofTokens?_tokens]

/-- **Indented text is read back.** -/
theorem parse_indented {v : Value} (h : v.Readable) : parse? v.indented = some v := by
  have hread := parse_indented_append h "" (by decide)
  rwa [String.append_empty] at hread

end Value

end Stopwatch.Json
