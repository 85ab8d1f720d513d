import Stopwatch.Proofs.Json.Parse

/-!
# A document stands alone

An array or an object on a line of its own is no part of a larger document that begins on an
earlier line and ends with it. Whatever stands on the earlier lines, a line feed leaves the
lexer between two tokens, or nothing can be read at all. So the tokens of the last line are
read as a whole, by a parser that has already taken a token, and such a parser is inside a
container that is then never closed.

- `Lexer.Begun`: something was found in the text so far; `place_of_step_newLine`: a line feed
  ends it;
- `Expect.step_ne_first`: the parser expects the value of a whole text only once;
- `Value.parse?_behind`: nothing is read of a text in front of a container and the container.
-/

namespace Stopwatch.Json

/-! ### The lexer -/

namespace Lexer

/-- A token, or the beginning of one, was found. -/
def Begun (l : Lexer) : Prop := l.place = .gap → l.tokens ≠ []

theorem begun_of_tokens {l : Lexer} (h : l.tokens ≠ []) : l.Begun := fun _ => h

theorem begun_of_place {l : Lexer} (h : l.place ≠ .gap) : l.Begun := fun hgap => absurd hgap h

theorem begun_between {tokens : List Token} (h : tokens ≠ []) (c : Char) :
    (between tokens c).Begun := by
  unfold between
  split_ifs
  · exact begun_of_tokens h
  · exact begun_of_tokens h
  · split
    · exact begun_of_tokens (List.cons_ne_nil _ _)
    · exact begun_of_tokens h

/-- Any character but a blank begins something. -/
theorem begun_start {c : Char} (h : isGap c = false) {l : Lexer} (hstep : step start c = some l) :
    l.Begun := by
  have hbetween : between [] c = l := Option.some.inj hstep
  rw [← hbetween]
  unfold between
  rw [h, if_neg Bool.false_ne_true]
  split_ifs
  · exact begun_of_place nofun
  · split
    · exact begun_of_tokens (List.cons_ne_nil _ _)
    · exact begun_of_place nofun

/-- What was found is never lost. -/
theorem Begun.step {l l' : Lexer} (h : l.Begun) {c : Char} (hstep : step l c = some l') :
    l'.Begun := by
  obtain ⟨place, tokens⟩ := l
  cases place with
  | gap =>
    obtain rfl := Option.some.inj hstep
    exact begun_between (h rfl) c
  | run seen =>
    simp only [Lexer.step] at hstep
    split at hstep
    · obtain ⟨t, _, rfl⟩ := Option.map_eq_some_iff.mp hstep
      exact begun_between (List.cons_ne_nil _ _) c
    · obtain rfl := Option.some.inj hstep
      exact begun_of_place (by simp)
  | text parts =>
    simp only [Lexer.step] at hstep
    split_ifs at hstep
    · obtain rfl := Option.some.inj hstep
      exact begun_of_tokens (List.cons_ne_nil _ _)
    · obtain rfl := Option.some.inj hstep
      exact begun_of_place (by simp)
    · obtain rfl := Option.some.inj hstep
      exact begun_of_place (by simp)
  | escape parts =>
    simp only [Lexer.step] at hstep
    split at hstep
    · obtain rfl := Option.some.inj hstep
      exact begun_of_place (by simp)
    · obtain ⟨d, _, rfl⟩ := Option.map_eq_some_iff.mp hstep
      exact begun_of_place (by simp)
  | hex parts left value =>
    obtain ⟨d, _, rfl⟩ := Option.map_eq_some_iff.mp hstep
    dsimp only
    split <;> exact begun_of_place (by simp)

theorem begun_of_foldlM {cs : List Char} {l l' : Lexer} (h : l.Begun)
    (hread : cs.foldlM Lexer.step l = some l') : l'.Begun := by
  induction cs generalizing l with
  | nil =>
    obtain rfl := Option.some.inj hread
    exact h
  | cons c cs ih =>
    rw [List.foldlM_cons] at hread
    obtain ⟨l₁, hstep, hrest⟩ := Option.bind_eq_some_iff.mp hread
    exact ih (h.step hstep) hrest

/-- A line feed ends what stands before it: in a string it is refused. -/
theorem place_of_step_newLine {l l' : Lexer} (h : step l '\n' = some l') : l'.place = .gap := by
  obtain ⟨place, tokens⟩ := l
  cases place with
  | gap =>
    obtain rfl := Option.some.inj h
    rfl
  | run seen =>
    obtain ⟨t, _, rfl⟩ := Option.map_eq_some_iff.mp h
    rfl
  | text parts => cases h
  | escape parts => cases h
  | hex parts left value => cases h

end Lexer

open Lexer in
/-- The lines before a text end between two tokens, and they have some unless they are
blank. -/
theorem exists_tokens_before {c : Char} (hc : isGap c = false) {rest text : List Char}
    {tokens all : List Token} (htext : ScansAs text tokens)
    (h : scan (c :: rest ++ '\n' :: text) = some all) :
    ∃ before, before ≠ [] ∧ all = before ++ tokens := by
  unfold scan at h
  rw [List.cons_append, List.foldlM_cons, Option.bind_eq_bind, Option.bind_assoc] at h
  obtain ⟨l₁, hfirst, h⟩ := Option.bind_eq_some_iff.mp h
  rw [List.foldlM_append, Option.bind_eq_bind, Option.bind_assoc] at h
  obtain ⟨l₂, hrest, h⟩ := Option.bind_eq_some_iff.mp h
  have hbegun := begun_of_foldlM (begun_start hc hfirst) hrest
  rw [List.foldlM_cons, Option.bind_eq_bind, Option.bind_assoc] at h
  obtain ⟨⟨place, before⟩, hnewLine, h⟩ := Option.bind_eq_some_iff.mp h
  obtain rfl : place = .gap := place_of_step_newLine hnewLine
  have hall : some (before.reverse ++ tokens) = some all := (htext before).symm.trans h
  refine ⟨before.reverse, ?_, (Option.some.inj hall).symm⟩
  exact List.reverse_ne_nil_iff.mpr (hbegun.step hnewLine rfl)

/-! ### The parser -/

namespace Expect

/-- A whole text is expected at its beginning only. -/
theorem step_ne_first {e e' : Expect} {t : Token} (h : step e t = some e') : e' ≠ value [] := by
  rintro rfl
  unfold step at h
  split at h <;> try cases h
  -- what remains are the tokens that may begin a value
  all_goals cases t <;> cases h

theorem feed_ne_first {e e' : Expect} {ts : List Token} (hts : ts ≠ [])
    (h : e.feed ts = some e') : e' ≠ value [] := by
  induction ts generalizing e with
  | nil => exact absurd rfl hts
  | cons t ts ih =>
    rw [feed_cons] at h
    obtain ⟨e₁, hstep, hrest⟩ := Option.bind_eq_some_iff.mp h
    cases ts with
    | nil =>
      obtain rfl := Option.some.inj hrest
      exact step_ne_first hstep
    | cons u us => exact ih (List.cons_ne_nil u us) hrest

end Expect

namespace Value

/-- An array or an object. -/
def IsContainer : Value → Prop
  | array _ | object _ => True
  | _ => False

theorem IsContainer.tokens_eq_cons {v : Value} (h : v.IsContainer) :
    ∃ t ts, v.tokens = t :: ts ∧ (t = .openArray ∨ t = .openObject) := by
  cases v with
  | array items =>
    rw [tokens]
    exact ⟨_, _, rfl, .inl rfl⟩
  | object members =>
    rw [tokens]
    exact ⟨_, _, rfl, .inr rfl⟩
  | _ => cases h

end Value

namespace Expect

/-- Where a container is taken in, it fills the place of a value or of a first item. -/
theorem feed_container {v : Value} (hv : v.IsContainer) {e e' : Expect}
    (h : e.feed v.tokens = some e') :
    ∃ frames, e' = more v frames ∧ (e = value frames ∨ ∃ outer, frames = .array [] :: outer) := by
  have hvalue (frames : List Frame) : (value frames).feed v.tokens = some (more v frames) := by
    have hreads := reads v frames []
    rw [List.append_nil] at hreads
    exact hreads
  obtain ⟨t, ts, htokens, ht⟩ := hv.tokens_eq_cons
  cases e with
  | value frames => exact ⟨frames, Option.some.inj (h.symm.trans (hvalue frames)), .inl rfl⟩
  | valueOrEnd frames =>
    have hfirst : (valueOrEnd frames).feed v.tokens =
        (value (.array [] :: frames)).feed v.tokens := by
      have hclose : t ≠ .closeArray := by obtain rfl | rfl := ht <;> nofun
      rw [htokens, feed_cons, feed_cons, step_valueOrEnd hclose]
    rw [hfirst, hvalue] at h
    exact ⟨_, (Option.some.inj h).symm, .inr ⟨frames, rfl⟩⟩
  -- elsewhere no bracket opens
  | _ =>
    rw [htokens, feed_cons] at h
    obtain rfl | rfl := ht
    · obtain ⟨_, hstep, _⟩ := Option.bind_eq_some_iff.mp h
      simp [step] at hstep
    · obtain ⟨_, hstep, _⟩ := Option.bind_eq_some_iff.mp h
      simp [step] at hstep

end Expect

namespace Value

open Expect in
/-- A container completes no value that tokens before it have begun. -/
theorem ofTokens?_append {v : Value} (hv : v.IsContainer) {before : List Token}
    (hbefore : before ≠ []) : ofTokens? (before ++ v.tokens) = none := by
  unfold ofTokens?
  rw [List.foldlM_append]
  cases hfirst : before.foldlM step (value []) with
  | none => rfl
  | some e =>
    have hne : e ≠ value [] := feed_ne_first hbefore hfirst
    show (e.feed v.tokens).bind result? = none
    cases hrest : e.feed v.tokens with
    | none => rfl
    | some e' =>
      obtain ⟨frames, rfl, rfl | ⟨outer, rfl⟩⟩ := feed_container hv hrest
      · cases frames with
        | nil => exact absurd rfl hne
        | cons frame frames => rfl
      · rfl

/-- **Nothing is read of a container with something else on the lines before it**, whatever
that is. -/
theorem parse?_behind {v : Value} (hv : v.IsContainer) (hreadable : v.Readable) {c : Char}
    (hc : isGap c = false) (rest : List Char) :
    parse? (String.ofList (c :: rest ++ '\n' :: v.compactChars)) = none := by
  have hscans : ScansAs v.compactChars v.tokens := by
    have hspells := spells_compact hreadable [] [] delimited_nil scansAs_nil
    rw [List.append_nil, List.append_nil] at hspells
    exact hspells
  rw [parse?, String.toList_ofList]
  cases hscan : scan (c :: rest ++ '\n' :: v.compactChars) with
  | none => rfl
  | some all =>
    obtain ⟨before, hbefore, rfl⟩ := exists_tokens_before hc hscans hscan
    exact ofTokens?_append hv hbefore

end Value

end Stopwatch.Json
