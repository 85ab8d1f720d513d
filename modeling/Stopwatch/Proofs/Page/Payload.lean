import Mathlib.Data.List.TakeWhile
import Stopwatch.Proofs.Json.Codec
import Stopwatch.Proofs.Markup.Replacement
import Stopwatch.Report.Page

/-!
# JSON inside a script element

Some characters of a JSON text are written as escapes so that they cannot end the script
element around it. The replacement knows nothing of JSON, and is right all the same: outside
of strings, and behind a backslash, none of these characters is allowed, so in a text that
can be read each of them stands in a string, after everything before it was read as a whole.

The lexer shows this. Reading a text and reading its replacement go hand in hand, character
by character: the second lexer is always the first one *respelled*, with the numbers of
these characters in the place of the characters themselves.

- `Lexer.Stuck`: a run with such a character, which is never a token;
- `Lexer.respell`: the lexer in the replaced text;
- `Lexer.foldlM_scriptSafe`: the two lexers, step by step;
- `Value.parse?_scriptSafe`: the replaced text of any JSON text is JSON with the same value;
- `Page.payload_means_chart`: the data of every chart can be read in the page.
-/

namespace Stopwatch

open Markup (scriptSafe scriptEscapes substitute)

namespace Json

/-- A character that could end a script element. -/
abbrev Special (c : Char) : Prop := c ∈ scriptEscapes.map Prod.fst

theorem special_iff {c : Char} : Special c ↔ c = '<' ∨ c = '>' ∨ c = '&' := by
  simp [Special, scriptEscapes]

theorem lt_of_special {c : Char} (h : Special c) : c.toNat < 0xD800 := by
  rcases special_iff.mp h with rfl | rfl | rfl <;> decide

/-! ### Numbers and words -/

namespace Literal

/-- The characters of numbers. -/
def isNumeric (c : Char) : Bool := c.isDigit || "+-.eE".toList.contains c

theorem isNumeric_of_isDigit {c : Char} (h : c.isDigit = true) : isNumeric c = true := by
  simp [isNumeric, h]

theorem not_special_of_isNumeric {c : Char} (h : isNumeric c = true) : ¬Special c := by
  rw [special_iff]
  rintro (rfl | rfl | rfl) <;> exact absurd h (by decide)

theorem isNumeric_of_exponent? {cs : List Char} {e : Option Exponent} (h : exponent? cs = some e) :
    ∀ c ∈ cs, isNumeric c = true := by
  have hdigits {negative : Bool} {ds : List Char}
      (hds : (if ds.isEmpty || !ds.all Char.isDigit then none
        else some (some ⟨negative, Nat.ofDigitChars 10 ds 0⟩) : Option (Option Exponent)) = some e) :
      ∀ c ∈ ds, isNumeric c = true := by
    split at hds
    · cases hds
    · rename_i hall
      intro c hc
      simp only [Bool.or_eq_true, Bool.not_eq_true', not_or, Bool.not_eq_false] at hall
      exact isNumeric_of_isDigit (List.all_eq_true.mp hall.2 c hc)
  cases cs with
  | nil => nofun
  | cons c rest =>
    simp only [exponent?] at h
    split at h
    · rename_i hmark
      have hc : isNumeric c = true := by
        simp only [Bool.or_eq_true, decide_eq_true_eq] at hmark
        rcases hmark with rfl | rfl <;> decide
      refine List.forall_mem_cons.mpr ⟨hc, ?_⟩
      -- with a sign, or without one
      split at h
      · exact List.forall_mem_cons.mpr ⟨by decide, hdigits h⟩
      · exact List.forall_mem_cons.mpr ⟨by decide, hdigits h⟩
      · exact hdigits h
    · cases h

theorem isNumeric_of_magnitude? {negative : Bool} {cs : List Char} {n : Literal}
    (h : magnitude? negative cs = some n) : ∀ c ∈ cs, isNumeric c = true := by
  have hwhole (ds : List Char) : ∀ c ∈ ds.takeWhile Char.isDigit, isNumeric c = true :=
    fun c hc => isNumeric_of_isDigit (List.mem_takeWhile_imp hc)
  rw [← List.takeWhile_append_dropWhile (p := Char.isDigit) (l := cs)]
  refine List.forall_mem_append.mpr ⟨hwhole cs, ?_⟩
  simp only [magnitude?] at h
  split at h
  · cases h
  split at h
  · rename_i more hmore
    split at h
    · cases h
    obtain ⟨e, he, -⟩ := Option.map_eq_some_iff.mp h
    rw [hmore]
    refine List.forall_mem_cons.mpr ⟨by decide, ?_⟩
    rw [← List.takeWhile_append_dropWhile (p := Char.isDigit) (l := more)]
    exact List.forall_mem_append.mpr ⟨hwhole more, isNumeric_of_exponent? he⟩
  · obtain ⟨e, he, -⟩ := Option.map_eq_some_iff.mp h
    exact isNumeric_of_exponent? he

theorem isNumeric_of_ofChars? {cs : List Char} {n : Literal} (h : ofChars? cs = some n) :
    ∀ c ∈ cs, isNumeric c = true := by
  unfold ofChars? at h
  split at h
  · exact List.forall_mem_cons.mpr ⟨by decide, isNumeric_of_magnitude? h⟩
  · exact isNumeric_of_magnitude? h

end Literal

theorem not_special_of_ofRun? {cs : List Char} {t : Token} (h : Token.ofRun? cs = some t) :
    ∀ c ∈ cs, ¬Special c := by
  unfold Token.ofRun? at h
  by_cases hnull : cs = "null".toList
  · simp [hnull, special_iff]
  by_cases htrue : cs = "true".toList
  · simp [htrue, special_iff]
  by_cases hfalse : cs = "false".toList
  · simp [hfalse, special_iff]
  rw [if_neg hnull, if_neg htrue, if_neg hfalse] at h
  obtain ⟨n, hn, -⟩ := Option.map_eq_some_iff.mp h
  intro c hc
  exact Literal.not_special_of_isNumeric (Literal.isNumeric_of_ofChars? hn c hc)

/-! ### The lexer in the replaced text -/

/-- A part of a string literal, with special characters written by their numbers. -/
def Part.respell : Part → Part
  | .char c => if Special c then .code c.toNat else .char c
  | .code n => .code n

theorem respell_special {c : Char} (h : Special c) : Part.respell (.char c) = .code c.toNat :=
  if_pos h

theorem respell_ordinary {c : Char} (h : ¬Special c) : Part.respell (.char c) = .char c :=
  if_neg h

/-- The number of a special character stands for the character: it is no half of a pair. -/
theorem decodeParts_respell_char (c : Char) (parts : List Part) :
    decodeParts (Part.respell (.char c) :: parts) = (decodeParts parts).map (c :: ·) := by
  by_cases h : Special c
  · rw [respell_special h, decodeParts_code (lt_of_special h)]
  · rw [respell_ordinary h]
    rfl

theorem decodeParts_respell (parts : List Part) :
    decodeParts (parts.map Part.respell) = decodeParts parts := by
  fun_induction decodeParts parts with
  | case1 => rfl
  | case2 c rest ih => rw [List.map_cons, decodeParts_respell_char, ih]
  | case3 n hhigh m rest hlow ih =>
    show decodeParts (.code n :: .code m :: rest.map Part.respell) = _
    rw [decodeParts.eq_def, ← ih]
    simp only [hhigh, hlow, if_true]
  | case4 n hhigh m rest hlow =>
    show decodeParts (.code n :: .code m :: rest.map Part.respell) = _
    rw [decodeParts.eq_def]
    simp only [hhigh, hlow, if_true, Bool.false_eq_true, if_false]
  | case5 n rest hhigh hrest =>
    show decodeParts (.code n :: rest.map Part.respell) = _
    rw [decodeParts.eq_def]
    simp only [hhigh, if_true]
    -- a half with a character behind it, which may have become a number
    cases rest with
    | nil => rfl
    | cons part rest =>
      cases part with
      | code m => exact absurd rfl (hrest m rest)
      | char c =>
        by_cases h : Special c
        · rw [List.map_cons, respell_special h]
          simp only [isLowHalf_of_lt (lt_of_special h), Bool.false_eq_true, if_false]
        · rw [List.map_cons, respell_ordinary h]
  | case6 n rest hhigh hlow =>
    show decodeParts (.code n :: rest.map Part.respell) = _
    rw [decodeParts.eq_def]
    simp only [hhigh, hlow, if_true, Bool.false_eq_true, if_false]
  | case7 n rest hhigh hlow ih =>
    show decodeParts (.code n :: rest.map Part.respell) = _
    rw [decodeParts.eq_def, ← ih]
    simp only [hhigh, hlow, Bool.false_eq_true, if_false]

/-- A place in a text, as it is in the replaced text. -/
def Place.respell : Place → Place
  | .gap => .gap
  | .run seen => .run seen
  | .text parts => .text (parts.map Part.respell)
  | .escape parts => .escape (parts.map Part.respell)
  | .hex parts left value => .hex (parts.map Part.respell) left value

namespace Lexer

/-- A lexer in a text, as it is in the replaced text. -/
def respell (l : Lexer) : Lexer := ⟨l.place.respell, l.tokens⟩

theorem respell_between (tokens : List Token) (c : Char) :
    (between tokens c).respell = between tokens c := by
  unfold between
  split_ifs
  · rfl
  · rfl
  · split <;> rfl

theorem finish_respell (l : Lexer) : finish l.respell = finish l := by
  obtain ⟨place, tokens⟩ := l
  cases place <;> rfl

/-- No backslash makes a special character out of another one. -/
theorem not_special_of_escaped? {c d : Char} (h : escaped? c = some d) : ¬Special d := by
  unfold escaped? at h
  split_ifs at h with hself <;> obtain rfl := Option.some.inj h
  · simp only [Bool.or_eq_true, decide_eq_true_eq] at hself
    rcases hself with (rfl | rfl) | rfl <;> decide
  all_goals decide

/-- Any other character takes both lexers the same way. -/
theorem step_respell {c : Char} (hc : ¬Special c) (l : Lexer) :
    step l.respell c = (step l c).map respell := by
  obtain ⟨place, tokens⟩ := l
  cases place with
  | gap => exact congrArg some (respell_between tokens c).symm
  | run seen =>
    simp only [step, respell, Place.respell]
    split
    · rw [Option.map_map]
      exact Option.map_congr fun t _ => (respell_between (t :: tokens) c).symm
    · rfl
  | text parts =>
    simp only [step, respell, Place.respell]
    split_ifs
    · rw [← List.map_reverse, decodeParts_respell]
      rfl
    · rfl
    · rfl
    · show _ = some (Lexer.mk (.text (Part.respell (.char c) :: parts.map Part.respell)) tokens)
      rw [respell_ordinary hc]
  | escape parts =>
    simp only [step, respell, Place.respell]
    split
    · rfl
    · rw [Option.map_map]
      refine Option.map_congr fun d hd => ?_
      show _ = Lexer.mk (.text (Part.respell (.char d) :: parts.map Part.respell)) tokens
      rw [respell_ordinary (not_special_of_escaped? hd)]
  | hex parts left value =>
    simp only [step, respell, Place.respell]
    rw [Option.map_map]
    refine Option.map_congr fun d _ => ?_
    simp only [Function.comp]
    split <;> rfl

/-! ### Special characters -/

/-- A run with a special character in it. -/
def Stuck (l : Lexer) : Prop :=
  match l.place with
  | .run seen => ∃ c ∈ seen, Special c
  | _ => False

theorem not_stuck_of_ofRun? {seen : List Char} {t : Token} (h : Token.ofRun? seen.reverse = some t)
    (tokens : List Token) : ¬Stuck ⟨.run seen, tokens⟩ := by
  rintro ⟨c, hc, hspecial⟩
  exact not_special_of_ofRun? h c (List.mem_reverse.mpr hc) hspecial

theorem not_stuck_of_finish {l : Lexer} {ts : List Token} (h : finish l = some ts) : ¬l.Stuck := by
  obtain ⟨place, tokens⟩ := l
  cases place with
  | run seen =>
    obtain ⟨t, ht, -⟩ := Option.map_eq_some_iff.mp h
    exact not_stuck_of_ofRun? ht tokens
  | _ => exact id

/-- Such a run gets longer, and is never a token. -/
theorem Stuck.step {l l' : Lexer} (h : l.Stuck) {c : Char} (hstep : step l c = some l') :
    l'.Stuck := by
  obtain ⟨place, tokens⟩ := l
  cases place with
  | run seen =>
    simp only [Lexer.step] at hstep
    split at hstep
    · obtain ⟨t, ht, -⟩ := Option.map_eq_some_iff.mp hstep
      exact absurd h (not_stuck_of_ofRun? ht tokens)
    · obtain rfl := Option.some.inj hstep
      obtain ⟨d, hd, hspecial⟩ := h
      exact ⟨d, List.mem_cons_of_mem c hd, hspecial⟩
  | _ => cases h

theorem Stuck.foldlM {cs : List Char} {l l' : Lexer} (h : l.Stuck)
    (hread : cs.foldlM Lexer.step l = some l') : l'.Stuck := by
  induction cs generalizing l with
  | nil =>
    obtain rfl := Option.some.inj hread
    exact h
  | cons c cs ih =>
    rw [List.foldlM_cons] at hread
    obtain ⟨l₁, hstep, hrest⟩ := Option.bind_eq_some_iff.mp hread
    exact ih (h.step hstep) hrest

/-- A special character that is not in a run is read in a string, as a character of it. -/
theorem text_of_special {c : Char} (hc : Special c) {l l' : Lexer} (hstep : step l c = some l')
    (hstuck : ¬l'.Stuck) :
    ∃ parts, l = ⟨.text parts, l.tokens⟩ ∧ l' = ⟨.text (.char c :: parts), l.tokens⟩ := by
  obtain ⟨hends, hu, hescaped, hhex, hquote, hbackslash, hcontrol⟩ :
      endsRun c = false ∧ c ≠ 'u' ∧ escaped? c = none ∧ hexValue? c = none ∧ c ≠ '"' ∧ c ≠ '\\' ∧
        ¬c.toNat < 0x20 := by
    rcases special_iff.mp hc with rfl | rfl | rfl <;> decide
  obtain ⟨place, tokens⟩ := l
  cases place with
  | gap =>
    obtain rfl := Option.some.inj hstep
    rw [between_of_not_endsRun hends] at hstuck
    exact absurd ⟨c, List.mem_cons_self, hc⟩ hstuck
  | run seen =>
    simp only [step, hends, Bool.false_eq_true, if_false] at hstep
    obtain rfl := Option.some.inj hstep
    exact absurd ⟨c, List.mem_cons_self, hc⟩ hstuck
  | text parts =>
    simp only [step, hquote, hbackslash, hcontrol, if_false] at hstep
    exact ⟨parts, rfl, (Option.some.inj hstep).symm⟩
  | escape parts =>
    simp only [step, hu, hescaped, if_false] at hstep
    cases hstep
  | hex parts left value =>
    simp only [step, hhex] at hstep
    cases hstep

/-- What is written for a special character is read in a string as one part of it. -/
theorem foldlM_substitute {c : Char} (hc : Special c) (parts : List Part) (tokens : List Token) :
    (substitute scriptEscapes c).foldlM step ⟨.text parts, tokens⟩ =
      some ⟨.text (.code c.toNat :: parts), tokens⟩ := by
  rcases special_iff.mp hc with rfl | rfl | rfl <;> rfl

/-- **The two lexers go hand in hand**: what is read of the replaced text is what is read of the text,
respelled. -/
theorem foldlM_scriptSafe {cs : List Char} {l l' : Lexer} (h : cs.foldlM step l = some l')
    (hstuck : ¬l'.Stuck) : (scriptSafe cs).foldlM step l.respell = some l'.respell := by
  rw [Markup.scriptSafe_eq_flatMap]
  -- a lexer that is not stuck at the end of the text is not stuck anywhere before
  induction cs generalizing l with
  | nil =>
    obtain rfl := Option.some.inj h
    rfl
  | cons c cs ih =>
    rw [List.foldlM_cons] at h
    obtain ⟨l₁, hstep, hrest⟩ := Option.bind_eq_some_iff.mp h
    rw [List.flatMap_cons, List.foldlM_append]
    have hfirst : (substitute scriptEscapes c).foldlM step l.respell = some l₁.respell := by
      by_cases hc : Special c
      · obtain ⟨parts, hl, rfl⟩ := text_of_special hc hstep fun hl₁ => hstuck (hl₁.foldlM hrest)
        rw [hl]
        refine (foldlM_substitute hc _ _).trans ?_
        rw [← respell_special hc]
        rfl
      · rw [Markup.substitute_of_notMem hc, List.foldlM_cons, step_respell hc, hstep]
        rfl
    rw [hfirst]
    exact ih hrest

end Lexer

/-! ### Texts -/

open Lexer

theorem scan_scriptSafe {cs : List Char} {ts : List Token} (h : scan cs = some ts) :
    scan (scriptSafe cs) = some ts := by
  obtain ⟨l, hread, hfinish⟩ := Option.bind_eq_some_iff.mp h
  have hsafe := foldlM_scriptSafe hread (not_stuck_of_finish hfinish)
  have hstart : start.respell = start := rfl
  rw [hstart] at hsafe
  rw [scan, hsafe, Option.bind_some, finish_respell, hfinish]

/-- **Replaced JSON is JSON**, and it means the same. -/
theorem Value.parse?_scriptSafe {text : String} {v : Value} (h : Value.parse? text = some v) :
    Value.parse? (String.ofList (scriptSafe text.toList)) = some v := by
  obtain ⟨ts, hscan, hvalue⟩ := Option.bind_eq_some_iff.mp h
  rw [Value.parse?, String.toList_ofList, scan_scriptSafe hscan]
  exact hvalue

/-- A backslash in a label is written as two, and the escape behind it begins with a third one. -/
example : scriptSafe "\"\\\\<\"".toList = "\"\\\\\\u003c\"".toList := by decide

/-- In a text that can be read, a special character stands in a string, and behind whole parts of it: neither
a backslash nor the digits of a number are left open before it. In the replaced text the same parts are read
up to there, and what is written for the character is read as one more part. -/
theorem special_read_whole {before after : List Char} {c : Char} {ts : List Token} (hc : Special c)
    (h : scan (before ++ c :: after) = some ts) :
    ∃ parts tokens, before.foldlM step start = some ⟨.text parts, tokens⟩ ∧
      (scriptSafe before).foldlM step start = some ⟨.text (parts.map Part.respell), tokens⟩ ∧
      (scriptSafe before ++ substitute scriptEscapes c).foldlM step start =
        some ⟨.text (.code c.toNat :: parts.map Part.respell), tokens⟩ := by
  obtain ⟨last, hread, hfinish⟩ := Option.bind_eq_some_iff.mp h
  rw [List.foldlM_append] at hread
  obtain ⟨l, hbefore, hrest⟩ := Option.bind_eq_some_iff.mp hread
  rw [List.foldlM_cons] at hrest
  obtain ⟨l', hstep, hafter⟩ := Option.bind_eq_some_iff.mp hrest
  have hstuck : ¬l'.Stuck := fun hl' => not_stuck_of_finish hfinish (hl'.foldlM hafter)
  obtain ⟨parts, hl, -⟩ := text_of_special hc hstep hstuck
  rw [hl] at hbefore
  have hsafe : (scriptSafe before).foldlM step start =
      some ⟨.text (parts.map Part.respell), l.tokens⟩ := foldlM_scriptSafe hbefore id
  refine ⟨parts, l.tokens, hbefore, hsafe, ?_⟩
  rw [List.foldlM_append, hsafe]
  exact foldlM_substitute hc _ _

end Json

/-! ### Charts -/

namespace Page

open Json (Value Part Lexer)
open Json.Value (readable_object readable_array readable_string)
open Markup (Piece)

theorem readable_dataset (index : Nat) (series : Report.Series) :
    (dataset index series).Readable := by
  refine readable_object.mpr ?_
  simp only [List.forall_mem_cons]
  refine ⟨readable_string _, ?_, readable_string _, readable_string _, ?_, nofun⟩
  · exact (Json.Codec.faithful_list Json.Codec.faithful_nullable_float).readable series.data
  · exact (Json.Codec.faithful_natural 64).readable 1

theorem readable_chartValue (c : Report.Chart) : (chartValue c).Readable := by
  refine readable_object.mpr ?_
  simp only [List.forall_mem_cons]
  refine ⟨readable_string _, ?_, ?_, nofun⟩
  · exact (Json.Codec.faithful_list Json.Codec.faithful_text).readable c.labels
  · refine readable_array.mpr fun v hv => ?_
    obtain ⟨i, hi, rfl⟩ := List.mem_mapIdx.mp hv
    exact readable_dataset i _

/-- **The data of a chart means the same in the page**, whatever its labels, series and figures are. It is
written without the characters that could end the script element, and a JSON reader gets the value from it
that it gets from the text as it was. Before each character that is replaced, both readers are in the same
string with the same parts of it behind them, none of them left open, and what is written for the character
is read as one part of its own. -/
theorem payload_means_chart (c : Report.Chart) :
    Piece.payload (chartValue c) ∈ chart c ∧
      (Piece.payload (chartValue c)).chars = scriptSafe (chartValue c).compactChars ∧
      (∀ d ∈ scriptSafe (chartValue c).compactChars, d ≠ '<' ∧ d ≠ '>' ∧ d ≠ '&') ∧
      Value.parse? (chartValue c).compact = some (chartValue c) ∧
      Value.parse? (String.ofList (scriptSafe (chartValue c).compactChars)) =
        some (chartValue c) ∧
      ∀ before d after, (chartValue c).compactChars = before ++ d :: after →
        d = '<' ∨ d = '>' ∨ d = '&' →
        ∃ parts tokens, before.foldlM Lexer.step Lexer.start = some ⟨.text parts, tokens⟩ ∧
          (scriptSafe before).foldlM Lexer.step Lexer.start =
            some ⟨.text (parts.map Part.respell), tokens⟩ ∧
          (scriptSafe before ++ substitute scriptEscapes d).foldlM Lexer.step Lexer.start =
            some ⟨.text (.code d.toNat :: parts.map Part.respell), tokens⟩ := by
  have hreadable := readable_chartValue c
  have hparse := Value.parse_compact hreadable
  have hsafe := Value.parse?_scriptSafe hparse
  rw [Value.compact, String.toList_ofList] at hsafe
  refine ⟨?_, rfl, fun d hd => ?_, hparse, hsafe, fun before d after htext hd => ?_⟩
  · simp [chart, Piece.classed, Piece.element]
  · refine ⟨?_, ?_, ?_⟩ <;> rintro rfl <;> exact Markup.notMem_scriptSafe (by decide) _ hd
  · have hscan := Value.scan_compact hreadable
    rw [htext] at hscan
    exact Json.special_read_whole (Json.special_iff.mpr hd) hscan

end Page

end Stopwatch
