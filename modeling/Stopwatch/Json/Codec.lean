import Stopwatch.Json.Number
import Stopwatch.Json.Parser
import Stopwatch.Json.Printer

/-!
# Codecs

A `Codec` says how the values of a type are written as JSON and read back. A record is described once,
by the list of its `Field`s, and both directions follow from that description:

- an object may list members in any order and hold members that the record does not know; a known
  member that is written twice is an error;
- an array holds the members in the order of the description;
- each field says what it reads when its member is absent and which values are not written.
-/

namespace Stopwatch.Json

structure Codec (α : Type) where
  encode : α → Value
  decode : Value → Option α

namespace Codec

/-! ### Scalars -/

def text : Codec String where
  encode s := .text s
  decode
    | .string s => s
    | _ => none

def flag : Codec Bool where
  encode b := .bool b
  decode
    | .bool b => some b
    | _ => none

/-- Unsigned integers of so many bits. -/
def natural (bits : Nat) : Codec Nat where
  encode n := .number (.ofNat n)
  decode
    | .number n => n.toNat? bits
    | _ => none

/-- Counts and sizes are integers of 64 bits. -/
def count : Codec Nat := natural 64

/-- Machine words. -/
def word64 : Codec UInt64 where
  encode n := .number (.ofNat n.toNat)
  decode
    | .number n => (n.toNat? 64).map UInt64.ofNat
    | _ => none

/-- Signed machine words. -/
def signed64 : Codec Int64 where
  encode n := .number (.ofInt n.toInt)
  decode
    | .number n => n.toInt?.map Int64.ofInt
    | _ => none

/-- Floats; those that are not finite are written as `null`, which reads as no float. -/
def float : Codec Float where
  encode x := (Literal.ofFloat? x).elim .null .number
  decode
    | .number n => n.toFloat?
    | _ => none

/-- One of several words. A word may also be read as an object whose only member has the word as its
name and the value `null`. -/
def word {α : Type} (name : α → String) (all : List α) : Codec α where
  encode a := .text (name a)
  decode
    | .string s => all.find? fun a => some (name a) == s
    | .object [(s, .null)] => all.find? fun a => some (name a) == s
    | _ => none

/-! ### Compounds -/

def list {α : Type} (c : Codec α) : Codec (List α) where
  encode xs := .array (xs.map c.encode)
  decode
    | .array vs => vs.mapM c.decode
    | _ => none

/-- A value or `null`. -/
def nullable {α : Type} (c : Codec α) : Codec (Option α) where
  encode x := x.elim .null c.encode
  decode
    | .null => some none
    | v => (c.decode v).map some

end Codec

/-! ### Records -/

/-- A member of a record. -/
structure Field (α : Type) where
  name : String
  codec : Codec α
  /-- What an object without the member reads, if that is allowed. -/
  absent : Option α
  /-- What an array that ends before the member reads, if that is allowed. -/
  missing : Option α
  /-- The values that are not written. -/
  skips : α → Bool

namespace Field

/-- A member that must be there. -/
def required {α : Type} (name : String) (codec : Codec α) : Field α :=
  ⟨name, codec, none, none, fun _ => false⟩

/-- A member that may be left out of an object, and is written as `null` when there is no value. -/
def nullable {α : Type} (name : String) (codec : Codec α) : Field (Option α) :=
  ⟨name, codec.nullable, some none, none, fun _ => false⟩

/-- A member that may be left out anywhere, and is when there is no value. -/
def optional {α : Type} (name : String) (codec : Codec α) : Field (Option α) :=
  ⟨name, codec.nullable, some none, some none, Option.isNone⟩

/-- A list that may be left out if it is empty, but is always written. -/
def list {α : Type} (name : String) (codec : Codec α) : Field (List α) :=
  ⟨name, codec.list, some [], some [], fun _ => false⟩

/-- A list that is left out if it is empty. -/
def sparse {α : Type} (name : String) (codec : Codec α) : Field (List α) :=
  ⟨name, codec.list, some [], some [], List.isEmpty⟩

/-- The member written for a value, if any. -/
def member {α : Type} (f : Field α) (a : α) : List (Label × Value) :=
  if f.skips a then [] else [(some f.name, f.codec.encode a)]

/-- Reads the member from an object; it must not occur twice. -/
def ofMembers? {α : Type} (f : Field α) (members : List (Label × Value)) : Option α :=
  match members.filter (·.1 == some f.name) with
  | [] => f.absent
  | [(_, v)] => f.codec.decode v
  | _ => none

end Field

/-- The fields of a record, which holds their values as a tuple. -/
inductive Fields : Type → Type 1 where
  | nil : Fields Unit
  | cons {α β : Type} (field : Field α) (rest : Fields β) : Fields (α × β)

namespace Fields

/-- The members of an object. -/
def members : {α : Type} → Fields α → α → List (Label × Value)
  | _, nil, _ => []
  | _, cons f rest, (a, as) => f.member a ++ rest.members as

/-- Reads the fields from the members of an object. -/
def ofMembers? : {α : Type} → Fields α → List (Label × Value) → Option α
  | _, nil, _ => some ()
  | _, cons f rest, ms => do
    let a ← f.ofMembers? ms
    let as ← rest.ofMembers? ms
    return (a, as)

/-- Reads the fields from the items of an array, in order. -/
def ofItems? : {α : Type} → Fields α → List Value → Option α
  | _, nil, [] => some ()
  | _, nil, _ :: _ => none
  | _, cons f rest, [] => do
    let a ← f.missing
    let as ← rest.ofItems? []
    return (a, as)
  | _, cons f rest, v :: vs => do
    let a ← f.codec.decode v
    let as ← rest.ofItems? vs
    return (a, as)

/-- The names of the fields. -/
def names : {α : Type} → Fields α → List String
  | _, nil => []
  | _, cons f rest => f.name :: rest.names

end Fields

namespace Codec

/-- A record with the given fields, `split` and `join` taking it apart and putting it together. -/
def record {α τ : Type} (fields : Fields τ) (split : α → τ) (join : τ → α) : Codec α where
  encode a := .object (fields.members (split a))
  decode
    | .object ms =>
      if ms.all (·.1.isSome) then (fields.ofMembers? ms).map join else none
    | .array vs => (fields.ofItems? vs).map join
    | _ => none

/-- Compact text. -/
def print {α : Type} (c : Codec α) (a : α) : String := (c.encode a).compact

/-- Indented text. -/
def printIndented {α : Type} (c : Codec α) (a : α) : String := (c.encode a).indented

/-- Reads a whole text. -/
def read? {α : Type} (c : Codec α) (text : String) : Option α :=
  (Value.parse? text).bind c.decode

end Codec

end Stopwatch.Json
