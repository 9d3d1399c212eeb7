import MeshRoom.Json.Token

/-!
# Documents as read

A tree is a document as its text has it: members in order, repeated names included. It is built
from tokens by a reader whose stack holds the containers still open.

What a tree means as a `Value` is decided afterwards, by `Tree.value?`: strings and numbers must
have a meaning, containers nest within a limit, and a repeated name keeps its first place and its
last value.
-/

namespace MeshRoom.Json

/-- A document as its text has it. -/
inductive Tree where
  | null
  | bool (b : Bool)
  | number (n : Option Number)
  | string (s : Option String)
  | array (items : List Tree)
  | object (members : List (Option String × Tree))

/-! ### The reader -/

/-- A container still open, with what it holds so far, latest first. -/
inductive Frame where
  | array (items : List Tree)
  | object (members : List (Option String × Tree)) (name : Option String)

/-- What the reader expects next, above the containers still open. -/
inductive Reader where
  | value (stack : List Frame)
  | itemOrClose (stack : List Frame)
  | nameOrClose (stack : List Frame)
  | name (members : List (Option String × Tree)) (stack : List Frame)
  | colon (members : List (Option String × Tree)) (name : Option String) (stack : List Frame)
  | afterItem (items : List Tree) (stack : List Frame)
  | afterMember (members : List (Option String × Tree)) (stack : List Frame)
  | done (tree : Tree)

namespace Reader

/-- A tree is complete: it goes into the innermost open container. -/
def complete (t : Tree) : List Frame → Reader
  | [] => done t
  | .array items :: stack => afterItem (t :: items) stack
  | .object members k :: stack => afterMember ((k, t) :: members) stack

/-- A token where a value is expected. -/
def start (stack : List Frame) : Token → Option Reader
  | .openArray => some (itemOrClose stack)
  | .openObject => some (nameOrClose stack)
  | .null => some (complete .null stack)
  | .bool b => some (complete (.bool b) stack)
  | .number n => some (complete (.number n) stack)
  | .string s => some (complete (.string s) stack)
  | _ => none

/-- One token. -/
def step : Reader → Token → Option Reader
  | value stack, t => start stack t
  | itemOrClose stack, .closeArray => some (complete (.array []) stack)
  | itemOrClose stack, t => start (.array [] :: stack) t
  | nameOrClose stack, .closeObject => some (complete (.object []) stack)
  | nameOrClose stack, .string k => some (colon [] k stack)
  | name members stack, .string k => some (colon members k stack)
  | colon members k stack, .colon => some (value (.object members k :: stack))
  | afterItem items stack, .comma => some (value (.array items :: stack))
  | afterItem items stack, .closeArray => some (complete (.array items.reverse) stack)
  | afterMember members stack, .comma => some (name members stack)
  | afterMember members stack, .closeObject => some (complete (.object members.reverse) stack)
  | _, _ => none

/-- The tree of the tokens from a state on. -/
def run : Reader → List Token → Option Tree
  | done t, [] => some t
  | _, [] => none
  | r, t :: ts => (r.step t).bind (·.run ts)

end Reader

namespace Tree

/-- The document that a text holds. -/
def read? (text : String) : Option Tree := do
  let tokens ← Scan.between.run text.toList
  Reader.run (.value []) tokens

/-! ### Meaning -/

/-- A member with its name and its value, if both have a meaning. -/
def named? : Option String → Option Value → Option (String × Value)
  | some k, some v => some (k, v)
  | _, _ => none

mutual

/-- The value of a tree whose containers nest no deeper than `room`. -/
def value? : Nat → Tree → Option Value
  | _, .null => some .null
  | _, .bool b => some (.bool b)
  | _, .number n => n.map .number
  | _, .string s => s.map .string
  | 0, .array _ => none
  | 0, .object _ => none
  | room + 1, .array items => (values? room items).map .array
  | room + 1, .object members =>
    (valueMembers? room members).map fun ms => .object (Entries.ofPairs ms)

/-- The values of the items. -/
def values? : Nat → List Tree → Option (List Value)
  | _, [] => some []
  | room, t :: ts => do
    let v ← t.value? room
    let vs ← values? room ts
    some (v :: vs)

/-- The values of the members, repeated names included. -/
def valueMembers? : Nat → List (Option String × Tree) → Option (List (String × Value))
  | _, [] => some []
  | room, (k, t) :: ms => do
    let m ← named? k (t.value? room)
    let rest ← valueMembers? room ms
    some (m :: rest)

end

mutual

/-- The tree that a value is written as. -/
def ofValue : Value → Tree
  | .null => .null
  | .bool b => .bool b
  | .number n => .number (some n)
  | .string s => .string (some s)
  | .array items => .array (ofValues items)
  | .object members => .object (ofMembers members)

/-- The trees of items. -/
def ofValues : List Value → List Tree
  | [] => []
  | v :: vs => ofValue v :: ofValues vs

/-- The trees of members. -/
def ofMembers : List (String × Value) → List (Option String × Tree)
  | [] => []
  | (k, v) :: ms => (some k, ofValue v) :: ofMembers ms

end

end Tree

/-- How deep the containers of a text may nest. -/
def nestingLimit : Nat := 127

/-- The value that a text holds. -/
def Value.read? (text : String) : Option Value := do
  let t ← Tree.read? text
  t.value? nestingLimit

end MeshRoom.Json
