import Stopwatch.Json.Printer
import Stopwatch.Proofs.Json.Literal

/-!
# Scanning what was printed

A text *scans as* some tokens if the lexer, standing between tokens, finds exactly these
in it. The texts of tokens scan as the tokens, one after the other, because the lexer
looks at every character once: a word or a number only has to be followed by a character
that ends it.

- `ScansAs`: the tokens of a text; `Delimited`: a text that a word or a number may stand
  before;
- `scansAs_label`: the text of a string literal scans as the string, whatever its
  characters;
- `Value.Readable`: all numbers of a value are read back as written;
- `scan_compact`, `scan_indented`: both texts of a readable value scan as its tokens.
-/

namespace Stopwatch.Json

open Lexer

/-- What the lexer makes of the rest of a text. -/
def scanFrom (l : Lexer) (cs : List Char) : Option (List Token) :=
  (cs.foldlM step l).bind finish

theorem scanFrom_cons (l : Lexer) (c : Char) (cs : List Char) :
    scanFrom l (c :: cs) = (step l c).bind fun l' => scanFrom l' cs := by
  unfold scanFrom
  rw [List.foldlM_cons]
  cases step l c <;> rfl

theorem scanFrom_cons_some {l l' : Lexer} {c : Char} (h : step l c = some l') (cs : List Char) :
    scanFrom l (c :: cs) = scanFrom l' cs := by
  rw [scanFrom_cons, h, Option.bind_some]

/-- Between tokens, the text scans as these. -/
def ScansAs (cs : List Char) (ts : List Token) : Prop :=
  ∀ before, scanFrom ⟨.gap, before⟩ cs = some (before.reverse ++ ts)

theorem scan_eq_of_scansAs {cs : List Char} {ts : List Token} (h : ScansAs cs ts) :
    scan cs = some ts := h []

theorem scansAs_nil : ScansAs [] [] := fun before => by
  rw [List.append_nil]
  rfl

/-- A text that a word or a number may stand before. -/
def Delimited (cs : List Char) : Prop := ∀ c rest, cs = c :: rest → endsRun c = true

theorem delimited_nil : Delimited [] := nofun

theorem delimited_cons {c : Char} (h : endsRun c = true) (cs : List Char) :
    Delimited (c :: cs) := by
  intro c' rest heq
  cases heq
  exact h

/-- Nothing but blanks. -/
def Gaps (cs : List Char) : Prop := ∀ c ∈ cs, isGap c = true

instance (cs : List Char) : Decidable (Gaps cs) := List.decidableBAll _ cs

/-- Nothing that ends a run. -/
def Unbroken (cs : List Char) : Prop := ∀ c ∈ cs, endsRun c = false

instance (cs : List Char) : Decidable (Unbroken cs) := List.decidableBAll _ cs

/-! ### Gaps and punctuation -/

theorem scansAs_gap {c : Char} (h : isGap c = true) {cs : List Char} {ts : List Token}
    (hrest : ScansAs cs ts) : ScansAs (c :: cs) ts := by
  intro before
  have hstep : step ⟨.gap, before⟩ c = some ⟨.gap, before⟩ := by
    simp only [step, between, h, if_true]
  rw [scanFrom_cons_some hstep]
  exact hrest before

theorem scansAs_gaps {gaps : List Char} (h : Gaps gaps) {cs : List Char}
    {ts : List Token} (hrest : ScansAs cs ts) : ScansAs (gaps ++ cs) ts := by
  induction gaps with
  | nil => exact hrest
  | cons c gaps ih =>
    obtain ⟨hc, hgaps⟩ := List.forall_mem_cons.mp h
    exact scansAs_gap hc (ih hgaps)

theorem scansAs_punctuation {c : Char} {t : Token} (hgap : isGap c = false) (hquote : c ≠ '"')
    (h : Token.ofPunctuation? c = some t) {cs : List Char} {ts : List Token}
    (hrest : ScansAs cs ts) : ScansAs (c :: cs) (t :: ts) := by
  intro before
  have hstep : step ⟨.gap, before⟩ c = some ⟨.gap, t :: before⟩ := by
    simp only [step, between, hgap, hquote, h, Bool.false_eq_true, if_false]
  rw [scanFrom_cons_some hstep, hrest (t :: before)]
  simp only [List.reverse_cons, List.append_assoc, List.singleton_append]

/-! ### Words and numbers -/

theorem scanFrom_run {cs : List Char} (h : Unbroken cs) (seen rest : List Char)
    (before : List Token) :
    scanFrom ⟨.run seen, before⟩ (cs ++ rest) =
      scanFrom ⟨.run (cs.reverse ++ seen), before⟩ rest := by
  induction cs generalizing seen with
  | nil => rfl
  | cons c cs ih =>
    obtain ⟨hc, hcs⟩ := List.forall_mem_cons.mp h
    have hstep : step ⟨.run seen, before⟩ c = some ⟨.run (c :: seen), before⟩ := by
      simp only [step, hc, Bool.false_eq_true, if_false]
    rw [List.cons_append, scanFrom_cons_some hstep, ih hcs]
    simp only [List.reverse_cons, List.append_assoc, List.singleton_append]

/-- The end of a run leaves the lexer where its token alone would. -/
theorem scanFrom_run_end {seen : List Char} {t : Token} (h : Token.ofRun? seen.reverse = some t)
    {rest : List Char} (hrest : Delimited rest) (before : List Token) :
    scanFrom ⟨.run seen, before⟩ rest = scanFrom ⟨.gap, t :: before⟩ rest := by
  cases rest with
  | nil =>
    show finish ⟨.run seen, before⟩ = finish ⟨.gap, t :: before⟩
    simp only [finish, h, Option.map_some]
  | cons c rest =>
    have hstep : step ⟨.run seen, before⟩ c = step ⟨.gap, t :: before⟩ c := by
      simp only [step, hrest c rest rfl, h, if_true, Option.map_some]
    rw [scanFrom_cons, scanFrom_cons, hstep]

theorem between_of_not_endsRun {c : Char} (h : endsRun c = false) (before : List Token) :
    between before c = ⟨.run [c], before⟩ := by
  unfold endsRun at h
  rw [Bool.or_eq_false_iff, Bool.or_eq_false_iff] at h
  obtain ⟨⟨hgap, hquote⟩, hpunctuation⟩ := h
  have hnone : Token.ofPunctuation? c = none := by simpa using hpunctuation
  have hne : c ≠ '"' := by simpa using hquote
  simp only [between, hgap, hne, hnone, Bool.false_eq_true, if_false]

theorem scansAs_run {run : List Char} {t : Token} (hne : run ≠ [])
    (h : Token.ofRun? run = some t) (hchars : Unbroken run) {cs : List Char}
    {ts : List Token} (hcs : Delimited cs) (hrest : ScansAs cs ts) :
    ScansAs (run ++ cs) (t :: ts) := by
  intro before
  cases run with
  | nil => exact absurd rfl hne
  | cons c run =>
    obtain ⟨hc, hrun⟩ := List.forall_mem_cons.mp hchars
    have hstep : step ⟨.gap, before⟩ c = some ⟨.run [c], before⟩ :=
      congrArg some (between_of_not_endsRun hc before)
    have hseen : Token.ofRun? (run.reverse ++ [c]).reverse = some t := by
      simpa using h
    rw [List.cons_append, scanFrom_cons_some hstep, scanFrom_run hrun,
      scanFrom_run_end hseen hcs, hrest (t :: before)]
    simp only [List.reverse_cons, List.append_assoc, List.singleton_append]

/-! ### Strings -/

/-- What the lexer finds inside a string literal for a character that was printed there. -/
def partOf (c : Char) : Part :=
  if c = '\n' || c = '\r' || c = '\t' || c = '\x08' || c = '\x0c' then .char c
  else if c.toNat < 0x20 then .code c.toNat
  else .char c

theorem hexValue?_hexDigit : ∀ d < 16, hexValue? (hexDigit d) = some d := by
  decide

theorem scanFrom_escape {c d : Char} (hu : c ≠ 'u') (h : escaped? c = some d)
    (parts : List Part) (before : List Token) (rest : List Char) :
    scanFrom ⟨.text parts, before⟩ ('\\' :: c :: rest) =
      scanFrom ⟨.text (.char d :: parts), before⟩ rest := by
  have hbackslash : step ⟨.text parts, before⟩ '\\' = some ⟨.escape parts, before⟩ := rfl
  have hescaped : step ⟨.escape parts, before⟩ c = some ⟨.text (.char d :: parts), before⟩ := by
    simp only [step, hu, if_false, h, Option.map_some]
  rw [scanFrom_cons_some hbackslash, scanFrom_cons_some hescaped]

theorem scanFrom_unicode {high low : Nat} (hhigh : high < 16) (hlow : low < 16)
    (parts : List Part) (before : List Token) (rest : List Char) :
    scanFrom ⟨.text parts, before⟩
      (['\\', 'u', '0', '0', hexDigit high, hexDigit low] ++ rest) =
      scanFrom ⟨.text (.code (16 * high + low) :: parts), before⟩ rest := by
  have hbackslash : step ⟨.text parts, before⟩ '\\' = some ⟨.escape parts, before⟩ := rfl
  have hu : step ⟨.escape parts, before⟩ 'u' = some ⟨.hex parts 4 0, before⟩ := rfl
  have hfirst : step ⟨.hex parts 4 0, before⟩ '0' = some ⟨.hex parts 3 0, before⟩ := rfl
  have hsecond : step ⟨.hex parts 3 0, before⟩ '0' = some ⟨.hex parts 2 0, before⟩ := rfl
  have hthird : step ⟨.hex parts 2 0, before⟩ (hexDigit high) =
      some ⟨.hex parts 1 high, before⟩ := by
    simp [step, hexValue?_hexDigit high hhigh]
  have hfourth : step ⟨.hex parts 1 high, before⟩ (hexDigit low) =
      some ⟨.text (.code (16 * high + low) :: parts), before⟩ := by
    simp [step, hexValue?_hexDigit low hlow]
  simp only [List.cons_append, List.nil_append]
  rw [scanFrom_cons_some hbackslash, scanFrom_cons_some hu, scanFrom_cons_some hfirst,
    scanFrom_cons_some hsecond, scanFrom_cons_some hthird, scanFrom_cons_some hfourth]

theorem scanFrom_escapeChar (c : Char) (parts : List Part) (before : List Token)
    (rest : List Char) :
    scanFrom ⟨.text parts, before⟩ (escapeChar c ++ rest) =
      scanFrom ⟨.text (partOf c :: parts), before⟩ rest := by
  unfold escapeChar
  split_ifs with hquote hbackslash hn hr ht hb hf hcontrol
  · subst hquote
    exact scanFrom_escape (by decide) rfl parts before rest
  · subst hbackslash
    exact scanFrom_escape (by decide) rfl parts before rest
  · subst hn
    exact scanFrom_escape (by decide) rfl parts before rest
  · subst hr
    exact scanFrom_escape (by decide) rfl parts before rest
  · subst ht
    exact scanFrom_escape (by decide) rfl parts before rest
  · subst hb
    exact scanFrom_escape (by decide) rfl parts before rest
  · subst hf
    exact scanFrom_escape (by decide) rfl parts before rest
  -- other control characters are written as four hexadecimal digits
  · have hpart : partOf c = .code (16 * (c.toNat / 16) + c.toNat % 16) := by
      rw [Nat.div_add_mod]
      simp [partOf, hn, hr, ht, hb, hf, hcontrol]
    rw [hpart]
    exact scanFrom_unicode (by omega) (by omega) parts before rest
  · have hpart : partOf c = .char c := by
      simp [partOf, hn, hr, ht, hb, hf, hcontrol]
    have hstep : step ⟨.text parts, before⟩ c = some ⟨.text (.char c :: parts), before⟩ := by
      simp only [step, hquote, hbackslash, hcontrol, if_false]
    rw [hpart, List.singleton_append, scanFrom_cons_some hstep]

theorem scanFrom_escaped (cs : List Char) (parts : List Part) (before : List Token)
    (rest : List Char) :
    scanFrom ⟨.text parts, before⟩ (cs.flatMap escapeChar ++ rest) =
      scanFrom ⟨.text ((cs.map partOf).reverse ++ parts), before⟩ rest := by
  induction cs generalizing parts with
  | nil => rfl
  | cons c cs ih =>
    rw [List.flatMap_cons, List.append_assoc, scanFrom_escapeChar, ih]
    simp only [List.map_cons, List.reverse_cons, List.append_assoc, List.singleton_append]

theorem isHighHalf_of_lt {n : Nat} (h : n < 0xD800) : isHighHalf n = false := by
  simp [isHighHalf]
  omega

theorem isLowHalf_of_lt {n : Nat} (h : n < 0xD800) : isLowHalf n = false := by
  simp [isLowHalf]
  omega

/-- A number in front of the halves of pairs stands for its character. -/
theorem decodeParts_code {c : Char} (h : c.toNat < 0xD800) (parts : List Part) :
    decodeParts (.code c.toNat :: parts) = (decodeParts parts).map (c :: ·) := by
  rw [decodeParts.eq_def]
  simp only [isHighHalf_of_lt h, isLowHalf_of_lt h, Bool.false_eq_true, if_false, Char.ofNat_toNat]

theorem decodeParts_partOf (c : Char) (parts : List Part) :
    decodeParts (partOf c :: parts) = (decodeParts parts).map (c :: ·) := by
  unfold partOf
  split_ifs with hshort hcontrol
  · rfl
  · exact decodeParts_code (by omega) parts
  · rfl

theorem decodeParts_map_partOf (cs : List Char) : decodeParts (cs.map partOf) = some cs := by
  induction cs with
  | nil => rfl
  | cons c cs ih => rw [List.map_cons, decodeParts_partOf, ih, Option.map_some]

/-- A string literal scans as its string, whatever its characters. -/
theorem scansAs_label (s : Label) {cs : List Char} {ts : List Token} (hrest : ScansAs cs ts) :
    ScansAs (labelChars s ++ cs) (.string s :: ts) := by
  intro before
  have hopen : step ⟨.gap, before⟩ '"' = some ⟨.text [], before⟩ := rfl
  have hbefore : (Token.string s :: before).reverse ++ ts =
      before.reverse ++ .string s :: ts := by
    simp only [List.reverse_cons, List.append_assoc, List.singleton_append]
  rw [← hbefore, ← hrest (.string s :: before)]
  cases s with
  -- a broken string is written as half of a pair
  | none =>
    have hchars : labelChars none = ['"', '\\', 'u', 'd', '8', '0', '0', '"'] := by decide
    rw [hchars]
    rfl
  | some s =>
    have hclose : step ⟨.text ((s.toList.map partOf).reverse ++ []), before⟩ '"' =
        some ⟨.gap, .string (some s) :: before⟩ := by
      simp only [step, if_true, List.append_nil, List.reverse_reverse, decodeParts_map_partOf,
        Option.map_some, String.ofList_toList]
    show scanFrom _ ('"' :: (s.toList.flatMap escapeChar ++ ['"'] ++ cs)) = _
    rw [scanFrom_cons_some hopen, List.append_assoc, scanFrom_escaped, List.singleton_append,
      scanFrom_cons_some hclose]

/-! ### Numbers -/

theorem endsRun_of_isDigit {c : Char} (h : c.isDigit = true) : endsRun c = false := by
  have hne {d : Char} (hd : d.isDigit = false) : c ≠ d := by
    rintro rfl
    rw [h] at hd
    cases hd
  have hspace := hne (d := ' ') (by decide)
  have htab := hne (d := '\t') (by decide)
  have hfeed := hne (d := '\n') (by decide)
  have hreturn := hne (d := '\r') (by decide)
  have hquote := hne (d := '"') (by decide)
  have hopen := hne (d := '[') (by decide)
  have hclose := hne (d := ']') (by decide)
  have hbegin := hne (d := '\x7b') (by decide)
  have hend := hne (d := '\x7d') (by decide)
  have hcomma := hne (d := ',') (by decide)
  have hcolon := hne (d := ':') (by decide)
  simp [endsRun, isGap, Token.ofPunctuation?, hspace, htab, hfeed, hreturn, hquote, hopen,
    hclose, hbegin, hend, hcomma, hcolon]

theorem unbroken_exponentChars (e : Option Exponent) : Unbroken (Literal.exponentChars e) := by
  cases e with
  | none => nofun
  | some e =>
    have hdigits : Unbroken (Nat.toDigits 10 e.value) := fun c hc =>
      endsRun_of_isDigit (Literal.isDigit_of_mem_toDigits hc)
    refine List.forall_mem_cons.mpr ⟨by decide, List.forall_mem_cons.mpr ⟨?_, hdigits⟩⟩
    cases e.negative <;> decide

theorem unbroken_chars {n : Literal} (h : n.WellFormed) : Unbroken n.chars := by
  have hsign : Unbroken (if n.negative then ['-'] else []) := by
    cases n.negative <;> decide
  have hwhole : Unbroken n.whole := fun c hc =>
    endsRun_of_isDigit (h.whole_digits c hc)
  have hfraction : Unbroken (if n.fraction.isEmpty then [] else '.' :: n.fraction) := by
    split
    · nofun
    · exact List.forall_mem_cons.mpr
        ⟨by decide, fun c hc => endsRun_of_isDigit (h.fraction_digits c hc)⟩
  unfold Literal.chars
  exact List.forall_mem_append.mpr ⟨List.forall_mem_append.mpr ⟨List.forall_mem_append.mpr
    ⟨hsign, hwhole⟩, hfraction⟩, unbroken_exponentChars n.exponent⟩

theorem ofRun?_chars {n : Literal} (h : n.WellFormed) :
    Token.ofRun? n.chars = some (.number n) := by
  have hread := Literal.ofChars?_chars h
  have hne (word : List Char) (hword : Literal.ofChars? word = none) : n.chars ≠ word := by
    rintro rfl
    rw [hread] at hword
    cases hword
  have hnull := hne "null".toList (by decide)
  have htrue := hne "true".toList (by decide)
  have hfalse := hne "false".toList (by decide)
  unfold Token.ofRun?
  rw [if_neg hnull, if_neg htrue, if_neg hfalse, hread, Option.map_some]

theorem chars_ne_nil {n : Literal} (h : n.WellFormed) : n.chars ≠ [] := by
  simp [Literal.chars, h.whole_ne_nil]

/-! ### Tokens -/

/-- A token is read back as written. -/
def Token.Readable : Token → Prop
  | .number n => n.WellFormed
  | _ => True

theorem scansAs_token {t : Token} (h : t.Readable) {cs : List Char} {ts : List Token}
    (hcs : Delimited cs) (hrest : ScansAs cs ts) : ScansAs (t.chars ++ cs) (t :: ts) := by
  cases t with
  | openArray => exact scansAs_punctuation (by decide) (by decide) rfl hrest
  | closeArray => exact scansAs_punctuation (by decide) (by decide) rfl hrest
  | openObject => exact scansAs_punctuation (by decide) (by decide) rfl hrest
  | closeObject => exact scansAs_punctuation (by decide) (by decide) rfl hrest
  | comma => exact scansAs_punctuation (by decide) (by decide) rfl hrest
  | colon => exact scansAs_punctuation (by decide) (by decide) rfl hrest
  | null => exact scansAs_run (by decide) (by decide) (by decide) hcs hrest
  | bool b =>
    cases b with
    | true => exact scansAs_run (by decide) (by decide) (by decide) hcs hrest
    | false => exact scansAs_run (by decide) (by decide) (by decide) hcs hrest
  | number n => exact scansAs_run (chars_ne_nil h) (ofRun?_chars h) (unbroken_chars h) hcs hrest
  | string s => exact scansAs_label s hrest

/-! ### Texts -/

/-- Before anything that may follow a word, the text scans as these tokens. -/
def Spells (text : List Char) (tokens : List Token) : Prop :=
  ∀ cs ts, Delimited cs → ScansAs cs ts → ScansAs (text ++ cs) (tokens ++ ts)

theorem Spells.scan_eq {text : List Char} {tokens : List Token} (h : Spells text tokens) :
    scan text = some tokens := by
  have hscans := h [] [] delimited_nil scansAs_nil
  rw [List.append_nil, List.append_nil] at hscans
  exact scan_eq_of_scansAs hscans

theorem spells_token {t : Token} (h : t.Readable) : Spells t.chars [t] :=
  fun _ _ hcs hrest => scansAs_token h hcs hrest

/-- A text that begins with a character that ends a run may stand after any other. -/
theorem Spells.append {a b : List Char} {as bs : List Token} {c : Char} (ha : Spells a as)
    (hc : endsRun c = true) (hb : Spells (c :: b) bs) : Spells (a ++ c :: b) (as ++ bs) := by
  intro cs ts hcs hrest
  rw [List.append_assoc, List.append_assoc]
  exact ha _ _ (delimited_cons hc (b ++ cs)) (hb cs ts hcs hrest)

theorem Spells.after_punctuation {c : Char} {t : Token} (hgap : isGap c = false)
    (hquote : c ≠ '"') (h : Token.ofPunctuation? c = some t) {text : List Char}
    {tokens : List Token} (htext : Spells text tokens) : Spells (c :: text) (t :: tokens) :=
  fun cs ts hcs hrest => scansAs_punctuation hgap hquote h (htext cs ts hcs hrest)

theorem Spells.after_gaps {gaps : List Char} (h : Gaps gaps) {text : List Char}
    {tokens : List Token} (htext : Spells text tokens) : Spells (gaps ++ text) tokens := by
  intro cs ts hcs hrest
  rw [List.append_assoc]
  exact scansAs_gaps h (htext cs ts hcs hrest)

theorem Spells.after_label (s : Label) {text : List Char} {tokens : List Token}
    (htext : Spells text tokens) : Spells (labelChars s ++ text) (.string s :: tokens) := by
  intro cs ts hcs hrest
  rw [List.append_assoc]
  exact scansAs_label s (htext cs ts hcs hrest)

/-- A gap at the end of a text is nothing. -/
theorem Spells.before_gaps {gaps text : List Char} {tokens : List Token}
    (htext : Spells text tokens) (h : Gaps gaps) : Spells (text ++ gaps) tokens := by
  intro cs ts hcs hrest
  rw [List.append_assoc]
  -- a gap ends a run like anything else that may follow
  refine htext _ _ ?_ (scansAs_gaps h hrest)
  cases gaps with
  | nil => exact hcs
  | cons c gaps =>
    have hc : endsRun c = true := by
      simp only [endsRun, h c List.mem_cons_self, Bool.true_or]
    exact delimited_cons hc (gaps ++ cs)

/-! ### Values -/

namespace Value

/-- Induction on a value, with what is known of all items of an array and of all members
of an object. -/
@[elab_as_elim]
theorem nested_induction {motive : Value → Prop} (null : motive .null)
    (bool : ∀ b, motive (.bool b)) (number : ∀ n, motive (.number n))
    (string : ∀ s, motive (.string s))
    (array : ∀ items, (∀ v ∈ items, motive v) → motive (.array items))
    (object : ∀ members : List (Label × Value),
      (∀ m ∈ members, motive m.2) → motive (.object members)) :
    ∀ v, motive v
  | .null => null
  | .bool b => bool b
  | .number n => number n
  | .string s => string s
  | .array items =>
    array items fun v _ => nested_induction null bool number string array object v
  | .object members => object members fun m hm =>
    have := List.sizeOf_lt_of_mem hm
    have : sizeOf m.2 < sizeOf m := by
      obtain ⟨s, v⟩ := m
      simp only [Prod.mk.sizeOf_spec]
      omega
    nested_induction null bool number string array object m.2

mutual

/-- The numbers in a value. -/
def numbers : Value → List Literal
  | number n => [n]
  | array items => itemNumbers items
  | object members => memberNumbers members
  | _ => []

/-- The numbers in some items. -/
def itemNumbers : List Value → List Literal
  | [] => []
  | v :: rest => v.numbers ++ itemNumbers rest

/-- The numbers in some members. -/
def memberNumbers : List (Label × Value) → List Literal
  | [] => []
  | (_, v) :: rest => v.numbers ++ memberNumbers rest

end

/-- All numbers of a value are read back as written. -/
def Readable (v : Value) : Prop := ∀ n ∈ v.numbers, n.WellFormed

theorem readable_of_numbers {v : Value} (h : v.numbers = []) : Readable v := by
  rw [Readable, h]
  nofun

theorem readable_null : Readable .null := readable_of_numbers (by simp [numbers])

theorem readable_bool (b : Bool) : Readable (.bool b) := readable_of_numbers (by simp [numbers])

theorem readable_string (s : Label) : Readable (.string s) :=
  readable_of_numbers (by simp [numbers])

theorem readable_number {n : Literal} : Readable (.number n) ↔ n.WellFormed := by
  rw [Readable, numbers]
  exact List.forall_mem_singleton

theorem readable_array {items : List Value} :
    Readable (.array items) ↔ ∀ v ∈ items, Readable v := by
  rw [Readable, numbers]
  induction items with
  | nil => simp [itemNumbers]
  | cons v rest ih =>
    rw [itemNumbers, List.forall_mem_append, List.forall_mem_cons, ih, Readable]

theorem readable_object {members : List (Label × Value)} :
    Readable (.object members) ↔ ∀ m ∈ members, Readable m.2 := by
  rw [Readable, numbers]
  induction members with
  | nil => simp [memberNumbers]
  | cons m rest ih =>
    obtain ⟨s, v⟩ := m
    rw [memberNumbers, List.forall_mem_append, List.forall_mem_cons, ih, Readable]

/-! ### Compact text -/

theorem spells_comma {text : List Char} {tokens : List Token} (h : Spells text tokens) :
    Spells (',' :: text) (.comma :: tokens) := h.after_punctuation (by decide) (by decide) rfl

theorem spells_colon {text : List Char} {tokens : List Token} (h : Spells text tokens) :
    Spells (':' :: text) (.colon :: tokens) := h.after_punctuation (by decide) (by decide) rfl

/-- The items of an array up to its closing bracket. -/
theorem spells_compact_items {items : List Value}
    (h : ∀ v ∈ items, Spells v.compactChars v.tokens) :
    Spells ((itemTokens items ++ [Token.closeArray]).flatMap Token.chars)
      (itemTokens items ++ [.closeArray]) := by
  have hclose : Spells [']'] [.closeArray] := spells_token (t := .closeArray) trivial
  induction items with
  | nil =>
    rw [itemTokens]
    exact hclose
  | cons v rest ih =>
    obtain ⟨hv, hrest⟩ := List.forall_mem_cons.mp h
    cases rest with
    | nil =>
      rw [itemTokens, List.flatMap_append]
      exact hv.append (by decide) hclose
    | cons w rest =>
      have hcomma := spells_comma (ih hrest)
      rw [itemTokens, List.append_assoc, List.cons_append, List.flatMap_append,
        List.flatMap_cons]
      exact hv.append (by decide) hcomma

/-- The members of an object up to its closing bracket. -/
theorem spells_compact_members {members : List (Label × Value)}
    (h : ∀ m ∈ members, Spells m.2.compactChars m.2.tokens) :
    Spells ((memberTokens members ++ [Token.closeObject]).flatMap Token.chars)
      (memberTokens members ++ [.closeObject]) := by
  have hclose : Spells ['\x7d'] [.closeObject] := spells_token (t := .closeObject) trivial
  induction members with
  | nil =>
    rw [memberTokens]
    exact hclose
  | cons m rest ih =>
    obtain ⟨s, v⟩ := m
    obtain ⟨hv, hrest⟩ := List.forall_mem_cons.mp h
    cases rest with
    | nil =>
      have hvalue := hv.append (c := '\x7d') (by decide) hclose
      have hmember := (spells_colon hvalue).after_label s
      rw [memberTokens, List.cons_append, List.cons_append, List.flatMap_cons,
        List.flatMap_cons, List.flatMap_append]
      exact hmember
    | cons m rest =>
      have hcomma := spells_comma (ih hrest)
      have hvalue := hv.append (by decide) hcomma
      have hmember := (spells_colon hvalue).after_label s
      rw [memberTokens, List.cons_append, List.cons_append, List.flatMap_cons,
        List.flatMap_cons, List.append_assoc, List.cons_append, List.flatMap_append,
        List.flatMap_cons]
      exact hmember

theorem spells_compact {v : Value} (h : v.Readable) : Spells v.compactChars v.tokens := by
  unfold compactChars
  induction v using nested_induction with
  | null =>
    rw [tokens, List.flatMap_singleton]
    exact spells_token trivial
  | bool b =>
    rw [tokens, List.flatMap_singleton]
    exact spells_token trivial
  | number n =>
    rw [tokens, List.flatMap_singleton]
    exact spells_token (readable_number.mp h)
  | string s =>
    rw [tokens, List.flatMap_singleton]
    exact spells_token trivial
  | array items ih =>
    have hitems := spells_compact_items fun v hv => ih v hv (readable_array.mp h v hv)
    rw [tokens, List.flatMap_cons]
    exact hitems.after_punctuation (c := '[') (by decide) (by decide) rfl
  | object members ih =>
    have hmembers := spells_compact_members fun m hm => ih m hm (readable_object.mp h m hm)
    rw [tokens, List.flatMap_cons]
    exact hmembers.after_punctuation (c := '\x7b') (by decide) (by decide) rfl

/-- The compact text of a readable value scans as its tokens. -/
theorem scan_compact {v : Value} (h : v.Readable) : scan v.compactChars = some v.tokens :=
  (spells_compact h).scan_eq

/-! ### Indented text -/

theorem gaps_newLine (depth : Nat) : Gaps (newLine depth) := by
  intro c hc
  rw [newLine, List.mem_cons] at hc
  obtain rfl | hspace := hc
  · decide
  · rw [List.eq_of_mem_replicate hspace]
    decide

theorem spells_indented_items (depth : Nat) {items : List Value}
    (h : ∀ v ∈ items, Spells (v.indentedChars depth) v.tokens) {text : List Char}
    {tokens : List Token} {c : Char} (hc : endsRun c = true)
    (htext : Spells (c :: text) tokens) :
    Spells (indentedItems depth items ++ c :: text) (itemTokens items ++ tokens) := by
  induction items with
  | nil =>
    rw [indentedItems, itemTokens]
    exact htext
  | cons v rest ih =>
    obtain ⟨hv, hrest⟩ := List.forall_mem_cons.mp h
    cases rest with
    | nil =>
      rw [indentedItems, itemTokens, List.append_assoc]
      exact (hv.append hc htext).after_gaps (gaps_newLine depth)
    | cons w rest =>
      have hcomma := spells_comma (ih hrest)
      rw [indentedItems, itemTokens, List.append_assoc, List.append_assoc, List.append_assoc,
        List.cons_append, List.cons_append]
      exact (hv.append (by decide) hcomma).after_gaps (gaps_newLine depth)

theorem spells_indented_members (depth : Nat) {members : List (Label × Value)}
    (h : ∀ m ∈ members, Spells (m.2.indentedChars depth) m.2.tokens) {text : List Char}
    {tokens : List Token} {c : Char} (hc : endsRun c = true)
    (htext : Spells (c :: text) tokens) :
    Spells (indentedMembers depth members ++ c :: text) (memberTokens members ++ tokens) := by
  have hspace : Gaps [' '] := by decide
  induction members with
  | nil =>
    rw [indentedMembers, memberTokens]
    exact htext
  | cons m rest ih =>
    obtain ⟨s, v⟩ := m
    obtain ⟨hv, hrest⟩ := List.forall_mem_cons.mp h
    cases rest with
    | nil =>
      have hvalue := (hv.append hc htext).after_gaps hspace
      have hmember := (spells_colon hvalue).after_label s
      rw [indentedMembers, memberTokens]
      simpa only [List.append_assoc, List.cons_append, List.nil_append] using
        hmember.after_gaps (gaps_newLine depth)
    | cons m rest =>
      have hcomma := spells_comma (ih hrest)
      have hvalue := (hv.append (by decide) hcomma).after_gaps hspace
      have hmember := (spells_colon hvalue).after_label s
      rw [indentedMembers, memberTokens]
      simpa only [List.append_assoc, List.cons_append, List.nil_append] using
        hmember.after_gaps (gaps_newLine depth)

theorem spells_indented {v : Value} (h : v.Readable) (depth : Nat) :
    Spells (v.indentedChars depth) v.tokens := by
  induction v using nested_induction generalizing depth with
  | null =>
    rw [indentedChars, tokens]
    exact spells_token trivial
  | bool b =>
    rw [indentedChars, tokens]
    exact spells_token trivial
  | number n =>
    rw [indentedChars, tokens]
    exact spells_token (t := .number n) (readable_number.mp h)
  | string s =>
    rw [indentedChars, tokens]
    exact spells_token (t := .string s) trivial
  | array items ih =>
    have hclose : Spells [']'] [.closeArray] := spells_token (t := .closeArray) trivial
    cases items with
    | nil =>
      rw [indentedChars, tokens, itemTokens]
      exact hclose.after_punctuation (c := '[') (by decide) (by decide) rfl
    | cons v rest =>
      have hitems := spells_indented_items (depth + 1) (c := '\n')
        (fun w hw => ih w hw (readable_array.mp h w hw) (depth + 1)) (by decide)
        (hclose.after_gaps (gaps_newLine depth))
      rw [indentedChars, tokens, List.append_assoc]
      exact hitems.after_punctuation (c := '[') (by decide) (by decide) rfl
  | object members ih =>
    have hclose : Spells ['\x7d'] [.closeObject] := spells_token (t := .closeObject) trivial
    cases members with
    | nil =>
      rw [indentedChars, tokens, memberTokens]
      exact hclose.after_punctuation (c := '\x7b') (by decide) (by decide) rfl
    | cons m rest =>
      have hmembers := spells_indented_members (depth + 1) (c := '\n')
        (fun m hm => ih m hm (readable_object.mp h m hm) (depth + 1)) (by decide)
        (hclose.after_gaps (gaps_newLine depth))
      rw [indentedChars, tokens, List.append_assoc]
      exact hmembers.after_punctuation (c := '\x7b') (by decide) (by decide) rfl

/-- The indented text of a readable value scans as its tokens, also with line feeds at its
end. -/
theorem scan_indented {v : Value} (h : v.Readable) {gaps : List Char} (hgaps : Gaps gaps) :
    scan (v.indentedChars 0 ++ gaps) = some v.tokens :=
  ((spells_indented h 0).before_gaps hgaps).scan_eq

end Value

end Stopwatch.Json
