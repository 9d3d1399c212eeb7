import MeshRoom.Dispatch
import MeshRoom.Scene.Report
import MeshRoom.Table

/-!
# Scenes

A scene holds, by mesh, the pair of objects that a view has built for it. Deltas change it entry by
entry: an entry that cannot be read leaves its mesh alone; any other first releases the objects that
the mesh has, and then builds new ones unless it is a removal. A mesh has both its objects or none.
-/

namespace MeshRoom

open Json Wire

/-- A mesh of the scene, with the objects of its sides. -/
structure Resource where
  uuid : String
  name : String
  visible : Bool
  primary : Handle
  backface : Handle
  vertexCount : Nat
  faceCount : Nat
deriving DecidableEq, Repr

/-- The meshes of a room, and the view that shows them. -/
structure Scene (V : Type) where
  view : V
  meshes : Table Resource := ∅

namespace Scene

variable {V : Type}

def size (s : Scene V) : Nat := s.meshes.size

def isEmpty (s : Scene V) : Bool := s.meshes.isEmpty

def has (s : Scene V) (uuid : String) : Bool := s.meshes.contains uuid

def resource? (s : Scene V) (uuid : String) : Option Resource := s.meshes[uuid]?

/-- The meshes in the order of their names. -/
def uuids (s : Scene V) : List String := s.meshes.keys

/-! ### Entries -/

/-- What an entry asks for: a removal, or a mesh of some geometry. -/
inductive Instruction where
  | remove
  | replace (payload : MeshPayload) (geometry : Geometry)

/-- Read an entry. -/
def Instruction.ofValue (v : Value) : Except EntryError Instruction :=
  match MeshEdit.ofValue? v with
  | none => .error .malformed
  | some .remove => .ok .remove
  | some (.upsert payload) =>
    match Geometry.decode payload with
    | .ok geometry => .ok (.replace payload geometry)
    | .error e => .error (.geometry e)

/-! ### Objects -/

variable [View V]

/-- Give up the objects of a mesh. -/
def release (r : Resource) (v : V) : V :=
  View.dispose r.backface (View.dispose r.primary
    (View.detach r.backface (View.detach r.primary v)))

/-- Build the objects of a mesh and put them into the group. Without its back, the front is given
up again. -/
def build (uuid : String) (p : MeshPayload) (g : Geometry) (v : V) : Except Rejection Resource × V :=
  let name := if p.name.isEmpty then uuid else p.name
  match View.build name g .front p.visible v with
  | .error r => (.error r, v)
  | .ok (primary, v) =>
    match View.build name g .back p.visible v with
    | .error r => (.error r, View.dispose primary v)
    | .ok (backface, v) =>
      let resource : Resource :=
        { uuid, name, visible := p.visible, primary, backface,
          vertexCount := g.vertexCount, faceCount := g.faceCount }
      (.ok resource, View.attach backface (View.attach primary v))

/-! ### Deltas -/

/-- Take a mesh out and give up its objects. -/
def evict (uuid : String) (s : Scene V) : Scene V :=
  match s.resource? uuid with
  | none => s
  | some r => ⟨release r s.view, s.meshes.erase uuid⟩

/-- Do what an entry asks for. -/
def fulfil (uuid : String) (i : Instruction) (s : Scene V) : EntryFate × Scene V :=
  let replaced := s.has uuid
  let s := s.evict uuid
  match i with
  | .remove => (if replaced then .removed else .unknown, s)
  | .replace payload geometry =>
    match build uuid payload geometry s.view with
    | (.ok r, view) =>
      (if replaced then .rebuilt else .added, ⟨view, s.meshes.insert uuid r⟩)
    | (.error r, view) => (.rejected r replaced, { s with view })

/-- Follow one entry. -/
def applyEntry (uuid : String) (v : Value) (s : Scene V) : EntryFate × Scene V :=
  match Instruction.ofValue v with
  | .ok i => s.fulfil uuid i
  | .error e => (.unread e, s)

/-- Follow entries one after the other. -/
def applyEntries : List (String × Value) → Scene V → List (String × EntryFate) × Scene V
  | [], s => ([], s)
  | (uuid, v) :: entries, s =>
    let (fate, s) := s.applyEntry uuid v
    let (fates, s) := applyEntries entries s
    ((uuid, fate) :: fates, s)

/-- Follow a delta. The first meshes of an empty scene are framed, and the camera is recentred in
any case. -/
def apply (delta : MeshDelta) (refresh : Bool) (s : Scene V) : Report × Scene V :=
  let (fates, s') := applyEntries delta.meshes s
  let framed := s.isEmpty && !s'.isEmpty
  let view := if framed then View.fit s'.view else s'.view
  (⟨fates, framed⟩, { s' with view := View.recenter refresh view })

/-- Follow parameters that carry a delta. Parameters without meshes leave the scene alone. -/
def applyParameters (parameters : Value) (s : Scene V) : Except HandlerError (Report × Scene V) :=
  match parameters.get? "meshes" with
  | none => .ok ({}, s)
  | some _ =>
    match MeshDelta.decoder.onValue parameters with
    | none => .error (.parameters "mesh delta")
    | some delta => .ok (s.apply delta true)

/-- The meshes in the order their objects were built. -/
def byAge (s : Scene V) : List Resource :=
  s.meshes.values.mergeSort fun a b => a.primary ≤ b.primary

/-- Give up every mesh, the oldest first, telling which there were. -/
def clear (s : Scene V) : List String × Scene V :=
  (s.uuids, ⟨s.byAge.foldl (fun v r => release r v) s.view, ∅⟩)

end Scene

end MeshRoom
