import MeshRoom.Json.Decode

/-!
# Mesh messages

A delta names meshes and says of each what becomes of it: a payload to put in its place, or its
removal. Entries stay as values until each is read on its own, so that a malformed one does not
spoil the rest.
-/

namespace MeshRoom.Wire

open Json

/-! ### Payloads -/

/-- An image on a mesh, its bytes in base64. -/
structure TexturePayload where
  name : String := ""
  width : UInt32
  height : UInt32
  data : String
deriving DecidableEq

/-- The geometry of a mesh. Buffers are base64 of little-endian words: three singles to a vertex or
colour, two to a texture coordinate, three signed indices to a face. -/
structure MeshPayload where
  name : String := ""
  visible : Bool := true
  vertices : Option String := none
  faces : Option String := none
  colors : Option String := none
  texcoords : Option String := none
  textures : List TexturePayload := []
deriving DecidableEq

namespace TexturePayload

def document (p : TexturePayload) : Document :=
  .record [
    .always "name" (.string p.name),
    .always "width" (.number (.ofUInt32 p.width)),
    .always "height" (.number (.ofUInt32 p.height)),
    .always "texData" (.string p.data)]

def decoder : Decoder TexturePayload := fun room t => do
  let r ← Record.open? 4 room t
  let name ← r.optional 0 ["name"] .string ""
  let width ← r.required 1 ["width"] .uint32
  let height ← r.required 2 ["height"] .uint32
  let data ← r.required 3 ["texData"] .string
  some ⟨name, width, height, data⟩

end TexturePayload

namespace MeshPayload

def document (p : MeshPayload) : Document :=
  .record [
    .always "name" (.string p.name),
    .always "visibility" (.bool p.visible),
    .given "V" .string p.vertices,
    .given "F" .string p.faces,
    .given "VC" .string p.colors,
    .given "TC" .string p.texcoords,
    .when "textures" (!p.textures.isEmpty) (.array (p.textures.map TexturePayload.document))]

def decoder : Decoder MeshPayload := fun room t => do
  let r ← Record.open? 7 room t
  let name ← r.optional 0 ["name"] .string ""
  let visible ← r.optional 1 ["visibility"] .bool true
  let vertices ← r.optional 2 ["V"] (.nullable .string) none
  let faces ← r.optional 3 ["F"] (.nullable .string) none
  let colors ← r.optional 4 ["VC"] (.nullable .string) none
  let texcoords ← r.optional 5 ["TC"] (.nullable .string) none
  let textures ← r.optional 6 ["textures"] (.list TexturePayload.decoder) []
  some ⟨name, visible, vertices, faces, colors, texcoords, textures⟩

end MeshPayload

/-! ### Edits -/

/-- What becomes of a mesh. -/
inductive MeshEdit where
  | remove
  | upsert (payload : MeshPayload)
deriving DecidableEq

namespace MeshEdit

/-- The entry that marks a removal. -/
def removalMark : Value := .object [("remove", .bool true)]

/-- The edit that an entry stands for. A removal mark wins over whatever stands beside it. -/
def ofValue? (v : Value) : Option MeshEdit :=
  if (v.get? "remove").bind Value.asBool? = some true then some .remove
  else (MeshPayload.decoder.onValue v).map .upsert

end MeshEdit

/-! ### Deltas -/

/-- Entries by mesh, in the order they are applied. -/
structure MeshDelta where
  meshes : Entries Value := []
deriving DecidableEq

namespace MeshDelta

/-- The delta that removes the meshes of a list. -/
def removal (uuids : List String) : MeshDelta :=
  ⟨Entries.ofPairs (uuids.map (·, MeshEdit.removalMark))⟩

/-- Put a payload under a mesh, in place of the entry it may have. -/
def insert (d : MeshDelta) (uuid : String) (payload : MeshPayload) : MeshDelta :=
  ⟨Entries.insert uuid payload.document.toValue d.meshes⟩

def isEmpty (d : MeshDelta) : Bool := d.meshes.isEmpty

/-- Every entry read on its own. -/
def edits (d : MeshDelta) : Entries (Option MeshEdit) := d.meshes.mapValues MeshEdit.ofValue?

def document (d : MeshDelta) : Document := .record [.always "meshes" (.value (.object d.meshes))]

def decoder : Decoder MeshDelta := fun room t => do
  let r ← Record.open? 1 room t
  let meshes ← r.optional 0 ["meshes"] (.entries .value) []
  some ⟨meshes⟩

end MeshDelta

/-! ### Health -/

/-- What a server found of the surface of a mesh. -/
structure MeshHealth where
  closed : Bool
  edgeManifold : Bool
  vertexManifold : Bool
deriving DecidableEq, Repr

namespace MeshHealth

/-- A surface without faults. -/
def isClean (h : MeshHealth) : Bool := h.closed && h.edgeManifold && h.vertexManifold

def document (h : MeshHealth) : Document :=
  .record [
    .always "closed" (.bool h.closed),
    .always "edgeManifold" (.bool h.edgeManifold),
    .always "vertexManifold" (.bool h.vertexManifold)]

def decoder : Decoder MeshHealth := fun room t => do
  let r ← Record.open? 3 room t
  let closed ← r.required 0 ["closed"] .bool
  let edgeManifold ← r.required 1 ["edgeManifold"] .bool
  let vertexManifold ← r.required 2 ["vertexManifold"] .bool
  some ⟨closed, edgeManifold, vertexManifold⟩

end MeshHealth

end MeshRoom.Wire
