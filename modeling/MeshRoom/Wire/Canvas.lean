import MeshRoom.Geometry.Vector
import MeshRoom.Json.Decode

/-!
# Canvas messages

Cameras and cursors on the wire. A camera notice carries only the fields that changed; a cursor
notice carries a cursor, or says that the session's cursor is gone, either beside the cursor or on
it. The canvas is the state a server holds of a whole room.
-/

namespace MeshRoom

open Json

/-! ### Vectors -/

namespace Vec3

def document (v : Vec3) : Document :=
  .record [.always "x" (.single v.x), .always "y" (.single v.y), .always "z" (.single v.z)]

def decoder : Decoder Vec3 := fun room t => do
  let r ← Record.open? 3 room t
  let x ← r.required 0 ["x"] .single
  let y ← r.required 1 ["y"] .single
  let z ← r.required 2 ["z"] .single
  some ⟨x, y, z⟩

end Vec3

namespace Vec2

def document (v : Vec2) : Document :=
  .record [.always "x" (.single v.x), .always "y" (.single v.y)]

def decoder : Decoder Vec2 := fun room t => do
  let r ← Record.open? 2 room t
  let x ← r.required 0 ["x"] .single
  let y ← r.required 1 ["y"] .single
  some ⟨x, y⟩

end Vec2

namespace Wire

/-! ### Cameras -/

/-- The camera fields that a session changed. -/
structure CameraNotice where
  session : String := ""
  timestamp : Int64 := 0
  target : Option Vec3 := none
  position : Option Vec3 := none
  up : Option Vec3 := none
  zoom : Option Single := none
deriving DecidableEq

namespace CameraNotice

/-- Whether any camera field is present. -/
def hasChanges (n : CameraNotice) : Bool :=
  n.target.isSome || n.position.isSome || n.up.isSome || n.zoom.isSome

def document (n : CameraNotice) : Document :=
  .record [
    .always "sessionId" (.string n.session),
    .always "timestamp" (.number (.ofInt64 n.timestamp)),
    .given "target" Vec3.document n.target,
    .given "pos" Vec3.document n.position,
    .given "up" Vec3.document n.up,
    .given "zoom" .single n.zoom]

def decoder : Decoder CameraNotice := fun room t => do
  let r ← Record.open? 6 room t
  let session ← r.optional 0 ["sessionId", "sessionUUID"] .string ""
  let timestamp ← r.optional 1 ["timestamp"] .int64 0
  let target ← r.optional 2 ["target"] (.nullable Vec3.decoder) none
  let position ← r.optional 3 ["pos"] (.nullable Vec3.decoder) none
  let up ← r.optional 4 ["up"] (.nullable Vec3.decoder) none
  let zoom ← r.optional 5 ["zoom"] (.nullable .single) none
  some ⟨session, timestamp, target, position, up, zoom⟩

end CameraNotice

/-! ### Cursors -/

/-- A cursor: its offset from the middle of the viewport, its icon, and whether it is gone. -/
structure CursorMark where
  dir : Vec2 := ⟨0, 0⟩
  icon : UInt32 := 0
  removed : Bool := false
deriving DecidableEq

namespace CursorMark

def document (c : CursorMark) : Document :=
  .record [
    .always "dir" c.dir.document,
    .always "idx" (.number (.ofUInt32 c.icon)),
    .when "remove" c.removed (.bool c.removed)]

def decoder : Decoder CursorMark := fun room t => do
  let r ← Record.open? 3 room t
  let dir ← r.optional 0 ["dir"] Vec2.decoder ⟨0, 0⟩
  let icon ← r.optional 1 ["idx"] .uint32 0
  let removed ← r.optional 2 ["remove"] .bool false
  some ⟨dir, icon, removed⟩

end CursorMark

/-- What a session says about its cursor. -/
structure CursorNotice where
  session : String := ""
  timestamp : Int64 := 0
  removed : Bool := false
  cursor : Option CursorMark := none
deriving DecidableEq

namespace CursorNotice

/-- Whether the cursor is gone, said at either place. -/
def isRemoval (n : CursorNotice) : Bool :=
  n.removed || (n.cursor.map CursorMark.removed).getD false

def document (n : CursorNotice) : Document :=
  .record [
    .always "UUID" (.string n.session),
    .always "timestamp" (.number (.ofInt64 n.timestamp)),
    .when "remove" n.removed (.bool n.removed),
    .given "cursor" CursorMark.document n.cursor]

def decoder : Decoder CursorNotice := fun room t => do
  let r ← Record.open? 4 room t
  let session ← r.optional 0 ["UUID", "sessionUUID", "sessionId"] .string ""
  let timestamp ← r.optional 1 ["timestamp"] .int64 0
  let removed ← r.optional 2 ["remove"] .bool false
  let cursor ← r.optional 3 ["cursor"] (.nullable CursorMark.decoder) none
  some ⟨session, timestamp, removed, cursor⟩

end CursorNotice

/-! ### The canvas of a room -/

/-- The camera of a canvas, without its target. -/
structure CanvasCamera where
  position : Option Vec3 := none
  up : Option Vec3 := none
  zoom : Option Single := none
deriving DecidableEq

/-- The camera and the cursors of a room, as its server has them. Cursors are in the order of their
session names. -/
structure Canvas where
  target : Option Vec3 := none
  camera : CanvasCamera := {}
  cursors : Entries CursorMark := []
deriving DecidableEq

namespace CanvasCamera

def document (c : CanvasCamera) : Document :=
  .record [
    .given "position" Vec3.document c.position,
    .given "up" Vec3.document c.up,
    .given "zoom" .single c.zoom]

def decoder : Decoder CanvasCamera := fun room t => do
  let r ← Record.open? 3 room t
  let position ← r.optional 0 ["position"] (.nullable Vec3.decoder) none
  let up ← r.optional 1 ["up"] (.nullable Vec3.decoder) none
  let zoom ← r.optional 2 ["zoom"] (.nullable .single) none
  some ⟨position, up, zoom⟩

end CanvasCamera

namespace Canvas

/-- The controls of a canvas hold its target alone. -/
def controlsDocument (target : Option Vec3) : Document :=
  .record [.given "target" Vec3.document target]

def controlsDecoder : Decoder (Option Vec3) := fun room t => do
  let r ← Record.open? 1 room t
  r.optional 0 ["target"] (.nullable Vec3.decoder) none

/-- Entries in the order of their names. -/
def sorted (cursors : Entries CursorMark) : Entries CursorMark :=
  cursors.mergeSort fun a b => a.1 ≤ b.1

def document (c : Canvas) : Document :=
  .record [
    .always "controls" (controlsDocument c.target),
    .always "camera" c.camera.document,
    .always "cursors" (.object (c.cursors.mapValues CursorMark.document))]

def decoder : Decoder Canvas := fun room t => do
  let r ← Record.open? 3 room t
  let target ← r.optional 0 ["controls"] controlsDecoder none
  let camera ← r.optional 1 ["camera"] CanvasCamera.decoder {}
  let cursors ← r.optional 2 ["cursors"] (.entries CursorMark.decoder) []
  some ⟨target, camera, sorted cursors⟩

end Canvas

end Wire

end MeshRoom
