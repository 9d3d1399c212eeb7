import MeshRoom.Json.Entries
import MeshRoom.Number.Single

/-!
# JSON values

A value is what a document means once it has been read: repeated names have collapsed, and a number
is either an integer of sixty-four bits, signed or not, or a finite double.

`Value.text` writes a value without blanks.
-/

namespace MeshRoom.Json

/-- What fits sixty-four bits, with a sign or without. -/
abbrev Number.Fits (value : Int) : Prop :=
  -0x8000000000000000 ≤ value ∧ value < 0x10000000000000000

/-- A number: an integer that fits sixty-four bits, or a finite double. -/
inductive Number where
  | integer (value : Int) (fits : Number.Fits value)
  | real (value : Double)
deriving DecidableEq

/-- A JSON value, with the members of an object in order. -/
inductive Value where
  | null
  | bool (b : Bool)
  | number (n : Number)
  | string (s : String)
  | array (items : List Value)
  | object (members : List (String × Value))

namespace Number

/-- The number of a small natural. -/
def ofUInt32 (n : UInt32) : Number :=
  .integer n.toNat ⟨by omega, by have := n.toNat_lt; omega⟩

/-- The number of a signed word. -/
def ofInt64 (n : Int64) : Number :=
  .integer n.toInt ⟨n.le_toInt, by have := n.toInt_lt; omega⟩

/-- An integer in plain digits, a double in its shortest form. -/
def text : Number → List Char
  | .integer i _ => (if i < 0 then ['-'] else []) ++ Nat.toDigits 10 i.natAbs
  | .real x => x.text

end Number

/-! ### Quoted strings -/

/-- A character inside quotes: quotes, backslashes and control characters are escaped. -/
def escape (c : Char) : List Char :=
  match c with
  | '"' => ['\\', '"']
  | '\\' => ['\\', '\\']
  | '\x08' => ['\\', 'b']
  | '\x0c' => ['\\', 'f']
  | '\n' => ['\\', 'n']
  | '\r' => ['\\', 'r']
  | '\t' => ['\\', 't']
  | c =>
    if c.toNat < 0x20 then
      ['\\', 'u', '0', '0', Nat.digitChar (c.toNat / 16), Nat.digitChar (c.toNat % 16)]
    else [c]

/-- A string between quotes. -/
def quote (s : String) : List Char := '"' :: s.toList.flatMap escape ++ ['"']

/-! ### Containers -/

/-- Parts between brackets, separated by commas. -/
def bracket (opening closing : Char) (parts : List (List Char)) : List Char :=
  opening :: List.flatten (parts.intersperse [',']) ++ [closing]

/-- An array of written items. -/
def writeArray (items : List (List Char)) : List Char := bracket '[' ']' items

/-- An object of named written values. -/
def writeObject (members : List (String × List Char)) : List Char :=
  bracket '\x7b' '\x7d' (members.map fun (k, v) => quote k ++ ':' :: v)

namespace Value

mutual

/-- The compact form of a value. -/
def write : Value → List Char
  | .null => ['n', 'u', 'l', 'l']
  | .bool true => ['t', 'r', 'u', 'e']
  | .bool false => ['f', 'a', 'l', 's', 'e']
  | .number n => n.text
  | .string s => quote s
  | .array items => writeArray (writeItems items)
  | .object members => writeObject (writeMembers members)

/-- The compact form of each item. -/
def writeItems : List Value → List (List Char)
  | [] => []
  | v :: vs => v.write :: writeItems vs

/-- The compact form of each member. -/
def writeMembers : List (String × Value) → List (String × List Char)
  | [] => []
  | (k, v) :: ms => (k, v.write) :: writeMembers ms

end

/-- The compact text of a value. -/
def text (v : Value) : String := String.ofList v.write

/-! ### Nesting -/

mutual

/-- How many containers are nested in a value, itself included. -/
def depth : Value → Nat
  | .array items => 1 + depthItems items
  | .object members => 1 + depthMembers members
  | _ => 0

/-- The greatest depth of the items. -/
def depthItems : List Value → Nat
  | [] => 0
  | v :: vs => max v.depth (depthItems vs)

/-- The greatest depth of the members. -/
def depthMembers : List (String × Value) → Nat
  | [] => 0
  | (_, v) :: ms => max v.depth (depthMembers ms)

end

/-! ### Distinct names -/

mutual

/-- No object in the value has a name twice. -/
def Distinct : Value → Prop
  | .array items => DistinctItems items
  | .object members => (Entries.keys members).Nodup ∧ DistinctMembers members
  | _ => True

/-- Every item has distinct names. -/
def DistinctItems : List Value → Prop
  | [] => True
  | v :: vs => v.Distinct ∧ DistinctItems vs

/-- Every member has distinct names. -/
def DistinctMembers : List (String × Value) → Prop
  | [] => True
  | (_, v) :: ms => v.Distinct ∧ DistinctMembers ms

end

/-! ### Access -/

/-- The member of an object under a name. -/
def get? : Value → String → Option Value
  | .object members, k => members.lookup k
  | _, _ => none

/-- The value if it is a truth value. -/
def asBool? : Value → Option Bool
  | .bool b => some b
  | _ => none

/-- The value if it is a string. -/
def asString? : Value → Option String
  | .string s => some s
  | _ => none

/-! ### Equality -/

mutual

/-- Decide equality of two values. -/
def decEq (v w : Value) : Decidable (v = w) :=
  match v, w with
  | .null, .null => .isTrue rfl
  | .bool a, .bool b => decidable_of_iff (a = b) (by simp)
  | .number a, .number b => decidable_of_iff (a = b) (by simp)
  | .string a, .string b => decidable_of_iff (a = b) (by simp)
  | .array a, .array b =>
    have := decEqItems a b
    decidable_of_iff (a = b) (by simp)
  | .object a, .object b =>
    have := decEqMembers a b
    decidable_of_iff (a = b) (by simp)
  | .null, .bool _ | .null, .number _ | .null, .string _ | .null, .array _ | .null, .object _
  | .bool _, .null | .bool _, .number _ | .bool _, .string _ | .bool _, .array _
  | .bool _, .object _ | .number _, .null | .number _, .bool _ | .number _, .string _
  | .number _, .array _ | .number _, .object _ | .string _, .null | .string _, .bool _
  | .string _, .number _ | .string _, .array _ | .string _, .object _ | .array _, .null
  | .array _, .bool _ | .array _, .number _ | .array _, .string _ | .array _, .object _
  | .object _, .null | .object _, .bool _ | .object _, .number _ | .object _, .string _
  | .object _, .array _ => .isFalse (by simp)

/-- Decide equality of two lists of items. -/
def decEqItems (vs ws : List Value) : Decidable (vs = ws) :=
  match vs, ws with
  | [], [] => .isTrue rfl
  | v :: vs, w :: ws =>
    have := decEq v w
    have := decEqItems vs ws
    decidable_of_iff (v = w ∧ vs = ws) (by simp)
  | [], _ :: _ | _ :: _, [] => .isFalse (by simp)

/-- Decide equality of two lists of members. -/
def decEqMembers (ms ns : List (String × Value)) : Decidable (ms = ns) :=
  match ms, ns with
  | [], [] => .isTrue rfl
  | (k, v) :: ms, (j, w) :: ns =>
    have := decEq v w
    have := decEqMembers ms ns
    decidable_of_iff ((k = j ∧ v = w) ∧ ms = ns) (by simp)
  | [], _ :: _ | _ :: _, [] => .isFalse (by simp)

end

instance : DecidableEq Value := decEq

instance : Inhabited Value := ⟨.null⟩

end Value

end MeshRoom.Json
