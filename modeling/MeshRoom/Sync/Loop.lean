import MeshRoom.Sync.Cursors
import MeshRoom.Wire.Envelope
import MeshRoom.Wire.Task

/-!
# Camera and cursor synchronisation

A client remembers a baseline, the camera and cursor it last knew the room to have. On every tick
the fields that differ from the baseline are told to the room, and the baseline moves to the live
values. There is no baseline, and nothing is told, before the canvas of the room has been pulled.

What other sessions tell moves the baseline along with the camera, so that it is not told back.
-/

namespace MeshRoom

open Wire

/-- Camera and cursor as the room is known to have them. -/
structure Baseline where
  target : Vec3
  position : Vec3
  up : Vec3
  zoom : Single
  cursor : Option Cursor
deriving DecidableEq

namespace Baseline

/-- The baseline of live values. -/
def capture (camera : Camera) (cursor : Option Cursor) : Baseline :=
  ⟨camera.target, camera.position, camera.up, camera.zoom, cursor⟩

/-- A value if it is news beside the known one. -/
def news {α : Type} (agrees : α → α → Bool) (known live : α) : Option α :=
  if agrees live known then none else some live

/-- The cursor, if there is one and it is not the known one. -/
def cursorNews (b : Baseline) (live : Option Cursor) : Option Cursor :=
  match live, b.cursor with
  | some c, some known => news Cursor.agrees known c
  | live, none => live
  | none, _ => none

/-- The camera fields that a change assigned follow the camera. -/
def adopt (b : Baseline) (change : CameraChange) (camera : Camera) : Baseline :=
  { b with
    target := if change.target.isSome then camera.target else b.target
    position := if change.position.isSome then camera.position else b.position
    up := if change.up.isSome then camera.up else b.up
    zoom := if change.zoom.isSome then camera.zoom else b.zoom }

end Baseline

/-- What one tick tells the room. -/
structure Tick where
  camera : Option CameraNotice := none
  cursor : Option CursorNotice := none
deriving DecidableEq

namespace Tick

def isEmpty (t : Tick) : Bool := t.camera.isNone && t.cursor.isNone

/-- The frames of a tick, the camera first. -/
def messages (t : Tick) : List String :=
  (t.camera.map fun n => flatMessage Task.syncParams n.document).toList ++
    (t.cursor.map fun n => flatMessage Task.syncCursor n.document).toList

end Tick

/-- The state of synchronisation. -/
structure Sync where
  baseline : Option Baseline := none
  cursors : CursorTable := ∅

namespace Sync

def isSeeded (s : Sync) : Bool := s.baseline.isSome

/-! ### Pulling the canvas -/

/-- Take over the camera of a canvas, make what is then live the baseline, and show the cursors of
the other sessions. -/
def seed (own : Session) (canvas : Canvas) (controls : Controls) (s : Sync) : Controls × Sync :=
  let controls := controls.move (.ofCanvas canvas)
  let others := canvas.cursors.filter fun (id, _) => !own.owns id
  (controls,
    { baseline := some (.capture controls.camera controls.cursor)
      cursors := others.foldl (fun t (id, m) => (t.place id (.ofMark m)).2) s.cursors })

/-! ### Telling the room -/

/-- What the session `id` has to tell. -/
def differences (id : String) (controls : Controls) (b : Baseline) : Tick :=
  let camera := controls.camera
  let notice : CameraNotice :=
    { session := id
      timestamp := controls.strokeTime
      target := Baseline.news Vec3.agrees b.target camera.target
      position := Baseline.news Vec3.agrees b.position camera.position
      up := Baseline.news Vec3.agrees b.up camera.up
      zoom := Baseline.news Single.agrees b.zoom camera.zoom }
  { camera := if notice.hasChanges then some notice else none
    cursor := (b.cursorNews controls.cursor).map fun c =>
      { session := id, timestamp := controls.strokeTime, cursor := some c.mark } }

/-- Tell what differs from the baseline, which moves to the live values. A cursor that is known
stays known while there is none. -/
def tick (own : Session) (controls : Controls) (s : Sync) : Tick × Sync :=
  match s.baseline, own.id with
  | some b, some id =>
    (differences id controls b,
      { s with baseline := some (.capture controls.camera (controls.cursor <|> b.cursor)) })
  | _, _ => ({}, s)

/-- The frame that tells the room that the own cursor is gone. -/
def farewell? (own : Session) (controls : Controls) : Option String :=
  own.id.map fun id =>
    let notice : CursorNotice := { session := id, timestamp := controls.strokeTime, removed := true }
    flatMessage Task.syncCursor notice.document

/-! ### Following others -/

/-- Whether a camera notice is one to follow: it comes from another session and changes something.
-/
def heeds (own : Session) (n : CameraNotice) : Bool :=
  !own.owns n.session && !(CameraChange.ofNotice n).isEmpty

/-- Follow the camera of another session. -/
def followCamera (own : Session) (n : CameraNotice) (controls : Controls) (s : Sync) :
    Controls × Sync :=
  if heeds own n then
    let change := CameraChange.ofNotice n
    let controls := controls.move change
    (controls, { s with baseline := s.baseline.map fun b => b.adopt change controls.camera })
  else (controls, s)

/-- Follow the cursor of another session. -/
def followCursor (own : Session) (n : CursorNotice) (s : Sync) : CursorFate × Sync :=
  let (fate, cursors) := s.cursors.follow own n
  (fate, { s with cursors })

end Sync

end MeshRoom
