import Stopwatch.Halt
import Stopwatch.Json.Codec
import Stopwatch.Text.Blank

/-!
# Memory figures

A `Snapshot` holds the memory figures of a process in bytes, read from a status text whose lines give
kibibytes after a key. A `Delta` is the difference of two snapshots, held to the range of signed
64-bit integers. All arithmetic is checked: a figure that has no product with 1024 among the words ends
the program.
-/

namespace Stopwatch.Memory

/-- Memory figures of a process, in bytes. -/
structure Snapshot where
  rss : UInt64
  virtual : UInt64
  peakRss : UInt64
deriving DecidableEq, Repr, Inhabited

/-- Signed differences, in bytes. -/
structure Delta where
  rss : Int64
  virtual : Int64
  peakRss : Int64
deriving DecidableEq, Inhabited

/-- A word as a signed integer, if it is one. -/
def signed? (n : UInt64) : Option Int64 :=
  if n.toNat < 0x8000000000000000 then some n.toInt64 else none

/-- `after - before`: the lesser word is taken from the greater one, and a difference that is no signed
integer becomes the last one on its side of zero. -/
def difference (before after : UInt64) : Except Halt Int64 :=
  if before ≤ after then do
    let rise ← Checked.difference after before
    return (signed? rise).getD Int64.maxValue
  else do
    let fall ← Checked.difference before after
    match signed? fall with
    | none => return Int64.minValue
    | some d => Checked.negation d

/-- How the figures changed from one snapshot to the next. -/
def Snapshot.deltaTo (before after : Snapshot) : Except Halt Delta := do
  let rss ← difference before.rss after.rss
  let virtual ← difference before.virtual after.virtual
  let peakRss ← difference before.peakRss after.peakRss
  return ⟨rss, virtual, peakRss⟩

/-! ### The status text -/

/-- An unsigned integer of 64 bits: digits after an optional plus sign. -/
def unsigned? (cs : List Char) : Option UInt64 :=
  let ds := match cs with
    | '+' :: ds => ds
    | ds => ds
  if ds.isEmpty || !ds.all Char.isDigit then none
  else
    let n := Nat.ofDigitChars 10 ds 0
    if n < 0x10000000000000000 then some (UInt64.ofNat n) else none

/-- The word after the key on the first line that starts with the key, read as an integer. -/
def kibibytes? (key : String) (status : List (List Char)) : Option UInt64 := do
  let line ← status.find? key.toList.isPrefixOf
  let word ← (Text.words (line.drop key.length)).head?
  unsigned? word

/-- The figure under a key in bytes. -/
def figure? (key : String) (status : List (List Char)) : Except Halt (Option UInt64) :=
  match kibibytes? key status with
  | none => return none
  | some n => do
    let bytes ← Checked.product n 1024
    return some bytes

/-- Reads a snapshot from a status text. Without a resident size there is none, and the other figures are
not looked at; the virtual size falls back to zero, and the peak to the resident size. -/
def Snapshot.ofStatus? (status : String) : Except Halt (Option Snapshot) := do
  let lines := Text.lines status.toList
  match ← figure? "VmRSS:" lines with
  | none => return none
  | some rss =>
    let virtual ← figure? "VmSize:" lines
    let peakRss ← figure? "VmHWM:" lines
    return some ⟨rss, virtual.getD 0, peakRss.getD rss⟩

/-! ### Codecs -/

open Json

def Snapshot.codec : Codec Snapshot :=
  .record
    (.cons (.required "rssBytes" .word64) <|
      .cons (.required "virtualBytes" .word64) <|
      .cons (.required "peakRssBytes" .word64) .nil)
    (fun s => (s.rss, s.virtual, s.peakRss, ()))
    (fun (rss, virtual, peakRss, _) => ⟨rss, virtual, peakRss⟩)

def Delta.codec : Codec Delta :=
  .record
    (.cons (.required "rssBytes" .signed64) <|
      .cons (.required "virtualBytes" .signed64) <|
      .cons (.required "peakRssBytes" .signed64) .nil)
    (fun s => (s.rss, s.virtual, s.peakRss, ()))
    (fun (rss, virtual, peakRss, _) => ⟨rss, virtual, peakRss⟩)

end Stopwatch.Memory
