import MeshRoom.Scene.Basic

/-!
# Mesh entries

What a user interface shows of a mesh: the mesh itself, controls that activate tasks, and a badge.
-/

namespace MeshRoom

open Json

/-- A button on a mesh entry, and the request it makes. -/
structure EntryControl where
  id : String
  icon : String
  tooltip : String
  task : String
  parameters : Value
deriving DecidableEq

inductive BadgeTone where
  | ok
  | warning
deriving DecidableEq, Repr

structure EntryBadge where
  icon : String
  tone : BadgeTone
deriving DecidableEq, Repr

/-- What is shown of a mesh. -/
structure MeshEntry where
  uuid : String
  name : String
  visible : Bool
  vertexCount : Nat
  faceCount : Nat
  controls : List EntryControl := []
  badge : Option EntryBadge := none
deriving DecidableEq

/-- The entry of a mesh before anything is added to it. -/
def MeshEntry.ofResource (r : Resource) : MeshEntry where
  uuid := r.uuid
  name := r.name
  visible := r.visible
  vertexCount := r.vertexCount
  faceCount := r.faceCount

end MeshRoom
