/-!
# Bytes as text

`decodeLossy` reads bytes as UTF-8. Where no character can be read, the longest part that could still
have become one is replaced by a single replacement character.
-/

namespace Stopwatch.Text

/-- The character that stands for bytes that are not text. -/
def replacement : Char := '\uFFFD'

/-- What a first byte calls for: the number of further bytes, the range of the second byte, and the bits
that the first byte contributes. -/
structure Lead where
  more : Nat
  low : UInt8
  high : UInt8
  bits : Nat
deriving Repr

/-- The meaning of a first byte beyond ASCII. The second byte is restricted so that no character is
written in two ways, no half of a surrogate pair is written, and nothing lies beyond the last plane. -/
def lead? (b : UInt8) : Option Lead :=
  if 0xC2 ≤ b && b ≤ 0xDF then some ⟨1, 0x80, 0xBF, b.toNat - 0xC0⟩
  else if b = 0xE0 then some ⟨2, 0xA0, 0xBF, 0⟩
  else if b = 0xED then some ⟨2, 0x80, 0x9F, 0xD⟩
  else if 0xE1 ≤ b && b ≤ 0xEF then some ⟨2, 0x80, 0xBF, b.toNat - 0xE0⟩
  else if b = 0xF0 then some ⟨3, 0x90, 0xBF, 0⟩
  else if 0xF1 ≤ b && b ≤ 0xF3 then some ⟨3, 0x80, 0xBF, b.toNat - 0xF0⟩
  else if b = 0xF4 then some ⟨3, 0x80, 0x8F, 4⟩
  else none

/-- A decoder in the middle of a character: how many bytes are to come, the range of the next one, and
the bits so far. -/
structure Pending where
  left : Nat
  low : UInt8
  high : UInt8
  bits : Nat
deriving Repr

/-- Decodes; `pending` is the character being read. -/
def decodeFrom (pending : Option Pending) : List UInt8 → List Char
  | [] => if pending.isSome then [replacement] else []
  | b :: bs =>
    let fresh : List Char :=
      if b < 0x80 then Char.ofNat b.toNat :: decodeFrom none bs
      else match lead? b with
        | some l => decodeFrom (some ⟨l.more, l.low, l.high, l.bits⟩) bs
        | none => replacement :: decodeFrom none bs
    match pending with
    | none => fresh
    | some p =>
      if p.low ≤ b && b ≤ p.high then
        let bits := p.bits * 64 + (b.toNat - 0x80)
        if p.left ≤ 1 then Char.ofNat bits :: decodeFrom none bs
        else decodeFrom (some ⟨p.left - 1, 0x80, 0xBF, bits⟩) bs
      else replacement :: fresh

/-- Bytes as text. -/
def decodeLossy (bytes : List UInt8) : String := String.ofList (decodeFrom none bytes)

end Stopwatch.Text
