import MeshRoom.Geometry.Mesh
import MeshRoom.View.Controls

/-!
# Views

A view shows meshes and has the controls a user moves. Each side of a mesh is built into an object
of its own, known by a handle until it is disposed of; objects are shown while they are in the
view's group. A build that the view rejects changes nothing.
-/

namespace MeshRoom

/-- What a view knows an object by. -/
abbrev Handle := Nat

/-- The side of a surface. -/
inductive Face where
  | front
  | back
deriving DecidableEq, Repr

def Face.name : Face → String
  | .front => "Front"
  | .back => "Back"

/-- Why a view builds no object for a mesh. -/
inductive RejectionReason where
  | sideDisabled (face : Face)
  | nonFinitePosition
deriving DecidableEq, Repr

def RejectionReason.message : RejectionReason → String
  | .sideDisabled face => face.name ++ " builds disabled"
  | .nonFinitePosition => "non-finite vertex position"

/-- A mesh that a view does not build. -/
structure Rejection where
  name : String
  reason : RejectionReason
deriving DecidableEq, Repr

/-- What is told about a rejected mesh. -/
def Rejection.message (r : Rejection) : String :=
  "view rejected mesh " ++ r.name ++ ": " ++ r.reason.message

/-- A view of meshes. -/
class View (V : Type) where
  controls : V → Controls
  setControls : Controls → V → V
  /-- Build one side of a mesh. -/
  build : (name : String) → Geometry → Face → (visible : Bool) → V → Except Rejection (Handle × V)
  /-- Put an object into the group. -/
  attach : Handle → V → V
  /-- Take an object out of the group. -/
  detach : Handle → V → V
  /-- Give up an object. -/
  dispose : Handle → V → V
  /-- Frame every visible mesh. -/
  fit : V → V
  /-- Centre the camera on the meshes, measuring them anew if asked to. -/
  recenter : (refresh : Bool) → V → V

namespace View

variable {V : Type} [View V]

/-- Change the camera of a view. -/
def move (change : CameraChange) (v : V) : V := setControls ((controls v).move change) v

end View

end MeshRoom
