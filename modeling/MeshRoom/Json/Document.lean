import MeshRoom.Json.Tree

/-!
# Documents to write

A document is what a typed value is written as. It differs from a `Value` in holding single
precision numbers: written directly they have their own shortest digits, while their value is the
same number in double precision. What is not finite is written as `null`.
-/

namespace MeshRoom.Json

/-- A document to write. -/
inductive Document where
  | bool (b : Bool)
  | number (n : Number)
  | single (x : Single)
  | string (s : String)
  | array (items : List Document)
  | object (members : List (String × Document))
  | value (v : Value)

/-- A field of a record: its name, and its document if it is present. -/
structure Field where
  name : String
  content : Option Document

namespace Field

/-- A field that is always present. -/
def always (name : String) (d : Document) : Field := ⟨name, some d⟩

/-- A field that is present if it has a value. -/
def given {α : Type} (name : String) (toDocument : α → Document) (x : Option α) : Field :=
  ⟨name, x.map toDocument⟩

/-- A field that is present if a condition holds. -/
def when (name : String) (present : Bool) (d : Document) : Field :=
  ⟨name, if present then some d else none⟩

/-- The member that a present field becomes. -/
def member? (f : Field) : Option (String × Document) := f.content.map (f.name, ·)

end Field

namespace Document

/-- The object of the fields that are present, in order. -/
def record (fields : List Field) : Document := .object (fields.filterMap Field.member?)

mutual

/-- The compact form of a document. -/
def write : Document → List Char
  | .bool b => (Value.bool b).write
  | .number n => n.text
  | .single x => if x.isFinite then x.text else Value.null.write
  | .string s => quote s
  | .array items => writeArray (writeItems items)
  | .object members => writeObject (writeMembers members)
  | .value v => v.write

/-- The compact form of each item. -/
def writeItems : List Document → List (List Char)
  | [] => []
  | d :: ds => d.write :: writeItems ds

/-- The compact form of each member. -/
def writeMembers : List (String × Document) → List (String × List Char)
  | [] => []
  | (k, d) :: ms => (k, d.write) :: writeMembers ms

end

/-- The compact text of a document. -/
def text (d : Document) : String := String.ofList d.write

mutual

/-- The value of a document, single precision widened to double. -/
def toValue : Document → Value
  | .bool b => .bool b
  | .number n => .number n
  | .single x =>
    match x.widen? with
    | some d => .number (.real d)
    | none => .null
  | .string s => .string s
  | .array items => .array (toValues items)
  | .object members => .object (toMembers members)
  | .value v => v

/-- The values of the items. -/
def toValues : List Document → List Value
  | [] => []
  | d :: ds => d.toValue :: toValues ds

/-- The values of the members. -/
def toMembers : List (String × Document) → List (String × Value)
  | [] => []
  | (k, d) :: ms => (k, d.toValue) :: toMembers ms

end

end Document

end MeshRoom.Json
