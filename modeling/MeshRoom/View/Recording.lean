import MeshRoom.View.Basic

/-!
# Recording views

A recording view shows nothing. It records every call, hands out handles in order, and can be told
to reject one side of every mesh. Its camera moves only when it is told to.
-/

namespace MeshRoom

/-- A recorded call. -/
inductive ViewCall where
  | build (name : String) (face : Face) (handle : Handle)
  | attach (handle : Handle)
  | detach (handle : Handle)
  | dispose (handle : Handle)
  | fit
  | recenter (refresh : Bool)
deriving DecidableEq, Repr

/-- A view that records its calls. -/
structure RecordingView where
  controls : Controls := {}
  calls : List ViewCall := []
  built : Nat := 0
  live : List Handle := []
  rejects : Option Face := none
deriving DecidableEq

namespace RecordingView

/-- Record a call. -/
def record (call : ViewCall) (v : RecordingView) : RecordingView :=
  { v with calls := v.calls ++ [call] }

def clearCalls (v : RecordingView) : RecordingView := { v with calls := [] }

/-- Build one side, unless that side is rejected. -/
def build (name : String) (_ : Geometry) (face : Face) (_ : Bool) (v : RecordingView) :
    Except Rejection (Handle × RecordingView) :=
  if v.rejects = some face then .error ⟨name, .sideDisabled face⟩
  else
    let handle := v.built + 1
    let v := { v with built := handle, live := v.live ++ [handle] }
    .ok (handle, v.record (.build name face handle))

def dispose (h : Handle) (v : RecordingView) : RecordingView :=
  { v with live := v.live.filter (· ≠ h) }.record (.dispose h)

instance : View RecordingView where
  controls := controls
  setControls c v := { v with controls := c }
  build := build
  attach h := record (.attach h)
  detach h := record (.detach h)
  dispose := dispose
  fit := record .fit
  recenter refresh := record (.recenter refresh)

/-! ### Asking about calls -/

/-- How many calls are of a kind. -/
def count (p : ViewCall → Bool) (v : RecordingView) : Nat := v.calls.countP p

/-- The place of the first call of a kind. -/
def position? (p : ViewCall → Bool) (v : RecordingView) : Option Nat := v.calls.findIdx? p

/-- How often an object was disposed of. -/
def disposeCount (h : Handle) (v : RecordingView) : Nat := v.count (· = .dispose h)

/-! ### User input -/

/-- Change the controls. -/
def adjust (f : Controls → Controls) (v : RecordingView) : RecordingView :=
  { v with controls := f v.controls }

/-- Add to the zoom of the camera. -/
def nudgeZoom (amount : Single) : RecordingView → RecordingView :=
  adjust fun c => { c with camera := { c.camera with zoom := c.camera.zoom + amount } }

/-- Add to the position of the camera. -/
def orbit (offset : Vec3) : RecordingView → RecordingView :=
  adjust fun c => { c with camera := { c.camera with position := c.camera.position + offset } }

def setCursor (cursor : Cursor) : RecordingView → RecordingView :=
  adjust fun c => { c with cursor := some cursor }

def setStrokeTime (time : Int64) : RecordingView → RecordingView :=
  adjust fun c => { c with strokeTime := time }

end RecordingView

end MeshRoom
