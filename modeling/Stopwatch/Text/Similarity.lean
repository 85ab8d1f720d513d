/-!
# Similar texts

How alike two texts are, from 0 for nothing in common to 1 for the same text. A character of one text finds
the same character in the other if that is not too far off; it counts how many do so, and how many of these
are out of order.

- `Similarity.pairs`: the places of the characters that find each other;
- `Similarity.score`: the likeness of two texts;
- `Similarity.alike`: the texts among some that are like a given one, the most alike last.
-/

namespace Stopwatch.Text.Similarity

/-- How far apart two characters may be that find each other. -/
def reach (a b : List Char) : Nat := max a.length b.length / 2 - 1

/-- The first place that is not taken where `b` has a character, not further than `reach` from `i`. -/
def place? (b : List Char) (reach : Nat) (taken : List Nat) (i : Nat) (c : Char) : Option Nat :=
  (List.range b.length).find? fun j =>
    decide (i ≤ j + reach) && decide (j ≤ i + reach) && !taken.contains j && b[j]? == some c

/-- The places in `b` that the characters of a text find, each with the character, from place `i` on. -/
def pairs (b : List Char) (reach : Nat) (taken : List Nat) (i : Nat) : List Char → List (Nat × Char)
  | [] => []
  | c :: cs =>
    match place? b reach taken i c with
    | none => pairs b reach taken (i + 1) cs
    | some j => (j, c) :: pairs b reach (j :: taken) (i + 1) cs

/-- How many of the characters that were found are not the same in both orders. -/
def displaced (found : List (Nat × Char)) : Nat :=
  let sorted := found.mergeSort fun a b => decide (a.1 ≤ b.1)
  ((found.zip sorted).filter fun (a, b) => a.2 ≠ b.2).length

/-- How alike two texts are. -/
def score (a b : List Char) : Float :=
  if a.isEmpty && b.isEmpty then 1.0
  else
    let found := pairs b (reach a b) [] 0 a
    let matched := Float.ofNat found.length
    if found.isEmpty then 0.0
    else
      let ordered := Float.ofNat (found.length - displaced found / 2)
      (matched / Float.ofNat a.length + matched / Float.ofNat b.length + ordered / matched) / 3.0

/-- From here on two texts count as alike. -/
def threshold : Float := 0.7

/-- Puts a text behind all that are not more alike. -/
def rank (score : Float) (text : String) : List (Float × String) → List (Float × String)
  | [] => [(score, text)]
  | (s, t) :: rest =>
    if score < s then (score, text) :: (s, t) :: rest else (s, t) :: rank score text rest

/-- The texts that are like a given one, the most alike last. -/
def alike (text : String) (candidates : List String) : List String :=
  let ranked := candidates.foldl (fun ranked c =>
    let s := score text.toList c.toList
    if threshold < s then rank s c ranked else ranked) []
  ranked.map Prod.snd

end Stopwatch.Text.Similarity
