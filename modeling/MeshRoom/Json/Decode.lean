import MeshRoom.Json.Document

/-!
# Typed reading

A decoder reads a tree as a value of some type, within a room for nesting. Records are read by
name or, from an array, by position: a name may not occur twice, a tail of fields may be missing
where each has a default, and names that are not fields are passed over unread.

A decoder runs on a text or on a value already read; in the latter case repeated names have
collapsed before.
-/

namespace MeshRoom.Json

/-- Reads a tree as an `α`, given how deep its containers may nest. -/
abbrev Decoder (α : Type) := Nat → Tree → Option α

namespace Decoder

variable {α β : Type}

/-- Decode the document that a text holds. -/
def onText (d : Decoder α) (text : String) : Option α := do
  let t ← Tree.read? text
  d nestingLimit t

/-- Decode a value, whose nesting is no obstacle. -/
def onValue (d : Decoder α) (v : Value) : Option α := d v.depth (.ofValue v)

/-! ### Scalars -/

def bool : Decoder Bool
  | _, .bool b => some b
  | _, _ => none

def string : Decoder String
  | _, .string s => s
  | _, _ => none

def uint32 : Decoder UInt32
  | _, .number (some (.integer i _)) =>
    if 0 ≤ i ∧ i.toNat < UInt32.size then some (UInt32.ofNat i.toNat) else none
  | _, _ => none

def int64 : Decoder Int64
  | _, .number (some (.integer i _)) => if i ≤ Int64.maxValue.toInt then some (Int64.ofInt i) else none
  | _, _ => none

/-- Any number, rounded once to single precision. -/
def single : Decoder Single
  | _, .number (some (.integer i _)) => some (.ofInt i)
  | _, .number (some (.real x)) => some (.narrow x)
  | _, _ => none

/-- Any value at all. -/
def value : Decoder Value := Tree.value?

/-! ### Combinators -/

/-- A value that may be `null` instead. -/
def nullable (d : Decoder α) : Decoder (Option α)
  | _, .null => some none
  | room, t => (d room t).map some

/-- An array of values. -/
def list (d : Decoder α) : Decoder (List α)
  | room + 1, .array items => items.mapM (d room)
  | _, _ => none

/-- An object of values under any names. A repeated name keeps its first place and last value. -/
def entries (d : Decoder α) : Decoder (Entries α)
  | room + 1, .object members => do
    let pairs ← members.mapM fun (k, t) => do
      let k ← k
      let x ← d room t
      some (k, x)
    some (Entries.ofPairs pairs)
  | _, _ => none

end Decoder

/-! ### Records -/

/-- An open record: the room left for its fields, and its fields by position or by name. -/
structure Record where
  room : Nat
  fields : List Tree ⊕ List (String × Tree)

/-- Open a tree as a record of so many fields. -/
def Record.open? (count room : Nat) (t : Tree) : Option Record :=
  match room, t with
  | room + 1, .array items => if items.length ≤ count then some ⟨room, .inl items⟩ else none
  | room + 1, .object members => do
    let named ← members.mapM fun (k, t) => k.map (·, t)
    some ⟨room, .inr named⟩
  | _, _ => none

namespace Record

variable {α : Type}

/-- The field at a position or under one of its names. Two occurrences are refused. -/
def field? (r : Record) (index : Nat) (names : List String) : Option (Option Tree) :=
  match r.fields with
  | .inl items => some items[index]?
  | .inr members =>
    match members.filter fun (k, _) => names.contains k with
    | [] => some none
    | [(_, t)] => some (some t)
    | _ => none

/-- A field that must be there. -/
def required (r : Record) (index : Nat) (names : List String) (d : Decoder α) : Option α := do
  let t ← (← r.field? index names)
  d r.room t

/-- A field that has a default. -/
def optional (r : Record) (index : Nat) (names : List String) (d : Decoder α) (dflt : α) :
    Option α := do
  match ← r.field? index names with
  | none => some dflt
  | some t => d r.room t

end Record

end MeshRoom.Json
