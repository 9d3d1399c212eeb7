import MeshRoom.Wire.Canvas

/-!
# Controls

What a user moves: a camera and a cursor. A camera change assigns some of the camera's fields and
leaves the rest; notices from other sessions and the canvas of the room both amount to one.
-/

namespace MeshRoom

open Wire

/-- A camera. -/
structure Camera where
  target : Vec3 := .zero
  position : Vec3 := ⟨0, 0, 10⟩
  up : Vec3 := ⟨0, 1, 0⟩
  zoom : Single := 1
  near : Single := .ofDecimal 1 (-1)
  far : Single := 1000
deriving DecidableEq

/-- A cursor: its offset from the middle of the viewport and its icon. -/
structure Cursor where
  dir : Vec2
  icon : UInt32
deriving DecidableEq

namespace Cursor

/-- The cursor of a mark, gone or not. -/
def ofMark (m : CursorMark) : Cursor := ⟨m.dir, m.icon⟩

/-- The mark of a cursor that is there. -/
def mark (c : Cursor) : CursorMark := { dir := c.dir, icon := c.icon }

/-- Numeric equality. -/
def agrees (a b : Cursor) : Bool := a.dir.agrees b.dir && a.icon == b.icon

end Cursor

/-- The camera fields to assign. -/
structure CameraChange where
  target : Option Vec3 := none
  position : Option Vec3 := none
  up : Option Vec3 := none
  zoom : Option Single := none
deriving DecidableEq

namespace CameraChange

def isEmpty (c : CameraChange) : Bool :=
  c.target.isNone && c.position.isNone && c.up.isNone && c.zoom.isNone

/-- Assign the fields of a change. -/
def apply (c : CameraChange) (camera : Camera) : Camera :=
  { camera with
    target := c.target.getD camera.target
    position := c.position.getD camera.position
    up := c.up.getD camera.up
    zoom := c.zoom.getD camera.zoom }

def ofNotice (n : CameraNotice) : CameraChange := ⟨n.target, n.position, n.up, n.zoom⟩

def ofCanvas (c : Canvas) : CameraChange :=
  ⟨c.target, c.camera.position, c.camera.up, c.camera.zoom⟩

end CameraChange

/-- What a user moves. There is no cursor until the pointer has entered the viewport. -/
structure Controls where
  camera : Camera := {}
  cursor : Option Cursor := none
  strokeTime : Int64 := 0
deriving DecidableEq

namespace Controls

/-- Change the camera. -/
def move (change : CameraChange) (c : Controls) : Controls :=
  { c with camera := change.apply c.camera }

end Controls

end MeshRoom
