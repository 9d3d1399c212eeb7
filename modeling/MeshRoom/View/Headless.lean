import MeshRoom.Geometry.Sphere
import MeshRoom.View.Basic
import Std.Data.ExtTreeMap

/-!
# Headless views

A headless view draws nothing but keeps the group of meshes and an orthographic camera, which frames
the meshes and stays clear of them. It measures meshes by the bounding sphere of their front sides.
-/

namespace MeshRoom

/-- One side of a mesh in a headless view. -/
structure HeadlessObject where
  face : Face
  visible : Bool
  attached : Bool := false
  positions : List Vec3
deriving DecidableEq

/-- A view without a renderer. The clock is what its owner says the time is. -/
structure HeadlessView where
  width : Single
  height : Single
  objects : Std.ExtTreeMap Handle HeadlessObject := ∅
  built : Nat := 0
  controls : Controls := {}
  panSpeed : Single := 1
  bounds : Option Sphere := none
  clock : Int64 := 0

namespace HeadlessView

/-- The view of a window, which has at least one pixel. -/
def ofWindow (width height : Nat) : HeadlessView where
  width := .ofInt (max width 1)
  height := .ofInt (max height 1)

/-! ### Objects -/

/-- Build one side, unless a position is not finite. -/
def build (name : String) (g : Geometry) (face : Face) (visible : Bool) (v : HeadlessView) :
    Except Rejection (Handle × HeadlessView) :=
  if g.positions.all Vec3.isFinite then
    let handle := v.built + 1
    let object : HeadlessObject := { face, visible, positions := g.positions }
    .ok (handle, { v with built := handle, objects := v.objects.insert handle object })
  else .error ⟨name, .nonFinitePosition⟩

/-- Put an object into the group or take it out. -/
def setAttached (attached : Bool) (h : Handle) (v : HeadlessView) : HeadlessView :=
  match v.objects[h]? with
  | some o => { v with objects := v.objects.insert h { o with attached } }
  | none => v

def dispose (h : Handle) (v : HeadlessView) : HeadlessView :=
  { v with objects := v.objects.erase h }

/-- The objects of the group. -/
def group (v : HeadlessView) : List HeadlessObject := v.objects.values.filter (·.attached)

/-- The points of the front sides in the group, of all or of the visible meshes. -/
def points (onlyVisible : Bool) (v : HeadlessView) : List Vec3 :=
  (v.group.filter fun o => o.face = .front && (!onlyVisible || o.visible)).flatMap (·.positions)

/-! ### The camera -/

/-- Note the time of a stroke. -/
def stroke (v : HeadlessView) : HeadlessView :=
  { v with controls := { v.controls with strokeTime := v.clock } }

/-- The speed of panning at a distance, unless there is none. -/
def panSpeedAt (distance dflt : Single) : Single :=
  if Single.below 0 distance then 100 / distance else dflt

/-- Move the camera along with its target onto a sphere and zoom so that the sphere fills the
window. -/
def frame (s : Sphere) (v : HeadlessView) : HeadlessView :=
  let camera := v.controls.camera
  let shift := s.center - camera.target
  let position := camera.position + shift
  let target := camera.target + shift
  let distance := (position - target).length
  let zoom :=
    if Single.below 0 s.radius then
      v.width.least v.height * .ofDecimal 5 (-1) / s.radius
    else camera.zoom
  let camera := { camera with target, position, zoom, far := distance * 2 }
  { v with
    controls := { v.controls with camera }
    panSpeed := panSpeedAt distance v.panSpeed }

/-- Frame the visible meshes, if there are any. -/
def fit (v : HeadlessView) : HeadlessView :=
  match boundingSphere? (v.points true) with
  | none => v
  | some s => (v.frame s).stroke

/-- How far the camera keeps from the meshes, and how far its planes reach, in radii. -/
def clearance : Single := .ofDecimal 101 (-2)

/-- Move the camera, in the direction it has, to where it is clear of a sphere, with the sphere
between its planes. -/
def standClear (s : Sphere) (v : HeadlessView) : HeadlessView :=
  let camera := v.controls.camera
  let target := camera.target
  let shift := ((s.center - target).length + s.radius) * clearance
  let position := target + (camera.position - target).direction.scale shift
  let depth := (s.center - position).dot (target - position).direction
  let near := depth - s.radius * clearance
  let camera := { camera with position, near, far := depth + s.radius * clearance }
  { v with
    controls := { v.controls with camera }
    panSpeed := panSpeedAt shift v.panSpeed }

/-- Measure the meshes, if asked to or not yet done. -/
def measure (refresh : Bool) (v : HeadlessView) : HeadlessView :=
  if refresh || v.bounds.isNone then { v with bounds := boundingSphere? (v.points false) } else v

/-- Stand clear of the meshes, if there are any. -/
def recenter (refresh : Bool) (v : HeadlessView) : HeadlessView :=
  if v.group.isEmpty then v
  else
    let v := v.measure refresh
    match v.bounds with
    | none => v
    | some s => (v.standClear s).stroke

instance : View HeadlessView where
  controls := controls
  setControls c v := { v with controls := c }
  build := build
  attach := setAttached true
  detach := setAttached false
  dispose := dispose
  fit := fit
  recenter := recenter

/-! ### User input -/

/-- Move the pointer to a place in the window. -/
def movePointer (x y : Single) (icon : UInt32) (v : HeadlessView) : HeadlessView :=
  let cursor : Cursor := ⟨⟨x - v.width / 2, y - v.height / 2⟩, icon⟩
  { v with controls := { v.controls with cursor := some cursor } }

end HeadlessView

end MeshRoom
