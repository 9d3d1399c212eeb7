import MeshRoom.Geometry.Vector
import MeshRoom.Geometry.Words
import MeshRoom.Text.Base64
import MeshRoom.Wire.Mesh

/-!
# Mesh geometry

The geometry of a mesh is decoded from the buffers of its payload, in the order vertices, faces,
colours, texture coordinates, textures; the first fault found is the one told. Every face refers to
vertices of the mesh, and attributes come one to a vertex.

The encoders write the buffers that the decoder reads.
-/

namespace MeshRoom

open Wire

/-! ### Buffers -/

/-- The buffers of a payload. -/
inductive Buffer where
  | vertices
  | faces
  | colors
  | texcoords
  | texture
deriving DecidableEq, Repr

/-- The name a buffer has in a payload. -/
def Buffer.name : Buffer → String
  | .vertices => "V"
  | .faces => "F"
  | .colors => "VC"
  | .texcoords => "TC"
  | .texture => "texData"

/-- How many bytes make one entry of a buffer. -/
def Buffer.stride : Buffer → Nat
  | .vertices => 12
  | .faces => 12
  | .colors => 12
  | .texcoords => 8
  | .texture => 1

/-- Why a payload holds no geometry. -/
inductive GeometryError where
  | missingVertices
  | base64 (buffer : Buffer)
  | misaligned (buffer : Buffer) (length : Nat)
  | attributeCount (buffer : Buffer) (expected actual : Nat)
  | indexOutOfRange (face : Nat) (index : Int) (count : Nat)
deriving DecidableEq, Repr

/-- What is told about a payload that holds no geometry. -/
def GeometryError.message : GeometryError → String
  | .missingVertices => "mesh has no vertex buffer"
  | .base64 b => b.name ++ " is not valid base64"
  | .misaligned b length =>
    b.name ++ " holds " ++ toString length ++ " bytes, not a multiple of " ++ toString b.stride
  | .attributeCount b expected actual =>
    b.name ++ " has " ++ toString actual ++ " entries for " ++ toString expected ++ " vertices"
  | .indexOutOfRange face index count =>
    "face " ++ toString face ++ " references vertex " ++ toString index ++ ", mesh has " ++
      toString count

/-! ### Geometry -/

/-- A face, by the indices of its corners. -/
structure Triangle where
  a : UInt32
  b : UInt32
  c : UInt32
deriving DecidableEq, Repr

/-- An image with its bytes. -/
structure Texture where
  name : String
  width : UInt32
  height : UInt32
  data : List UInt8
deriving DecidableEq, Repr

/-- The decoded geometry of a mesh. -/
structure Geometry where
  positions : List Vec3
  triangles : List Triangle := []
  colors : Option (List Vec3) := none
  texcoords : Option (List Vec2) := none
  textures : List Texture := []
deriving DecidableEq

namespace Geometry

def vertexCount (g : Geometry) : Nat := g.positions.length

def faceCount (g : Geometry) : Nat := g.triangles.length

/-! ### Decoding -/

/-- The bytes of a buffer. -/
def decodeBytes (buffer : Buffer) (text : String) : Except GeometryError (List UInt8) :=
  match Base64.decode? text.toList with
  | some bytes => .ok bytes
  | none => .error (.base64 buffer)

/-- The words of a buffer that holds whole entries. -/
def decodeWords (buffer : Buffer) (text : String) : Except GeometryError (List UInt32) := do
  let bytes ← decodeBytes buffer text
  if bytes.length % buffer.stride = 0 then .ok (Words.read bytes)
  else .error (.misaligned buffer bytes.length)

/-- Words as vectors of three. -/
def vectors3 (ws : List UInt32) : List Vec3 :=
  (Words.triples ws).map fun (x, y, z) => ⟨⟨x⟩, ⟨y⟩, ⟨z⟩⟩

/-- Words as vectors of two. -/
def vectors2 (ws : List UInt32) : List Vec2 :=
  (Words.pairs ws).map fun (x, y) => ⟨⟨x⟩, ⟨y⟩⟩

/-- A word as the index of a vertex, read as signed. -/
def decodeIndex (count face : Nat) (w : UInt32) : Except GeometryError UInt32 :=
  let index := w.toInt32.toInt
  if index < 0 ∨ count ≤ index then .error (.indexOutOfRange face index count) else .ok w

/-- Words as faces, the first of them having the given number. -/
def decodeFaces (count : Nat) :
    Nat → List (UInt32 × UInt32 × UInt32) → Except GeometryError (List Triangle)
  | _, [] => .ok []
  | face, (a, b, c) :: rest => do
    let a ← decodeIndex count face a
    let b ← decodeIndex count face b
    let c ← decodeIndex count face c
    let triangles ← decodeFaces count (face + 1) rest
    .ok (⟨a, b, c⟩ :: triangles)

/-- The faces of a payload, none if it has no such buffer. -/
def decodeTriangles (count : Nat) : Option String → Except GeometryError (List Triangle)
  | none => .ok []
  | some text => do
    let ws ← decodeWords .faces text
    decodeFaces count 0 (Words.triples ws)

/-- An attribute of a payload, one entry to a vertex. -/
def decodeAttribute {α : Type} (buffer : Buffer) (count : Nat) (entries : List UInt32 → List α) :
    Option String → Except GeometryError (Option (List α))
  | none => .ok none
  | some text => do
    let ws ← decodeWords buffer text
    let items := entries ws
    if items.length = count then .ok (some items)
    else .error (.attributeCount buffer count items.length)

def decodeTexture (p : TexturePayload) : Except GeometryError Texture := do
  let data ← decodeBytes .texture p.data
  .ok ⟨p.name, p.width, p.height, data⟩

/-- The geometry that a payload holds. -/
def decode (p : MeshPayload) : Except GeometryError Geometry := do
  let some text := p.vertices | .error .missingVertices
  let positions := vectors3 (← decodeWords .vertices text)
  let count := positions.length
  let triangles ← decodeTriangles count p.faces
  let colors ← decodeAttribute .colors count vectors3 p.colors
  let texcoords ← decodeAttribute .texcoords count vectors2 p.texcoords
  let textures ← p.textures.mapM decodeTexture
  .ok ⟨positions, triangles, colors, texcoords, textures⟩

/-! ### Encoding -/

/-- The buffer of words. -/
def encodeWords (ws : List UInt32) : String := String.ofList (Base64.encode (Words.toBytes ws))

/-- The buffer of single-precision numbers. -/
def encodeSingles (xs : List Single) : String := encodeWords (xs.map Single.bits)

/-- The buffer of signed integers. -/
def encodeInts (is : List Int32) : String := encodeWords (is.map Int32.toUInt32)

/-- The payload of a single triangle. -/
def trianglePayload (name : String) : MeshPayload where
  name := name
  vertices := some (encodeSingles [0, 0, 0, 1, 0, 0, 0, 1, 0])
  faces := some (encodeInts [0, 1, 2])

end Geometry

end MeshRoom
