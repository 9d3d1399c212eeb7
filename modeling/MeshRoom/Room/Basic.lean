import MeshRoom.Dispatch.Script
import MeshRoom.Event
import MeshRoom.Sync.Loop

/-!
# Rooms

What a client knows of its room, and the handlers that frames from the room run: they assign the
session, follow cameras, cursors and meshes, and tell the interface what is going on. A handler that
fails leaves the room as it was.
-/

namespace MeshRoom

open Json Wire

/-- What a client knows of its room. Reports wait to be rendered, events to be taken up. -/
structure Room (V : Type) where
  scene : Scene V
  session : Session := {}
  sync : Sync := {}
  reports : List Report := []
  events : List Event := []
  log : List LogEntry := []

/-- A handler of a task. -/
inductive Handler where
  | assignSession
  | tellBusy
  | tellReload
  | followCamera
  | followCursor
  | followMeshes (reporting : Bool)
  | scripted (s : Script)
deriving DecidableEq, Repr

namespace Room

variable {V : Type}

/-- Tell the interface something. -/
def tell (e : Event) (room : Room V) : Room V := { room with events := room.events ++ [e] }

/-- Queue a report to be rendered. -/
def report (r : Report) (room : Room V) : Room V := { room with reports := room.reports ++ [r] }

variable [View V]

/-- The controls of the view. -/
def controls (room : Room V) : Controls := View.controls room.scene.view

/-- Put controls and synchronisation in place together. -/
def withSync (cs : Controls × Sync) (room : Room V) : Room V :=
  { room with
    scene := { room.scene with view := View.setControls cs.1 room.scene.view }
    sync := cs.2 }

/-- Take over the canvas of the room. -/
def seed (canvas : Canvas) (room : Room V) : Room V :=
  room.withSync (room.sync.seed room.session canvas room.controls)

/-- Follow the camera of another session. -/
def followCamera (n : CameraNotice) (room : Room V) : Room V :=
  room.withSync (room.sync.followCamera room.session n room.controls)

/-- Follow the cursor of another session. -/
def followCursor (n : CursorNotice) (room : Room V) : CursorFate × Room V :=
  let (fate, sync) := room.sync.followCursor room.session n
  (fate, { room with sync })

/-- Follow a delta and queue its report. -/
def applyMeshes (delta : MeshDelta) (room : Room V) : Room V :=
  let (r, scene) := room.scene.apply delta true
  { room with scene }.report r

end Room

namespace Handler

variable {V : Type} [View V]

/-- The reply of a handler that fails. -/
def failure (e : HandlerError) : Reply Handler := { result := .error e }

/-- Read the parameters of a handler, and go on with them. -/
def reading {α : Type} (subject : String) (d : Decoder α) (parameters : Value) (room : Room V)
    (go : α → Reply Handler × Room V) : Reply Handler × Room V :=
  match d.onValue parameters with
  | some x => go x
  | none => (failure (.parameters subject), room)

/-- The reply of a script, as the reply of a handler. -/
def ofScript (r : Reply Script) : Reply Handler :=
  { result := r.result, registers := r.registers.map fun (task, s) => (task, .scripted s) }

/-- Run a handler. -/
def run (h : Handler) (parameters : Value) (room : Room V) : Reply Handler × Room V :=
  match h with
  | .assignSession =>
    reading Task.initializeSession SessionGrant.decoder parameters room fun grant =>
      match room.session.assign grant.session with
      | .ok session => ({}, { room with session }.tell (.sessionAssigned grant.session))
      | .error e => (failure (.session e), room)
  | .tellBusy =>
    reading Task.isServerBusy BusyNotice.decoder parameters room fun n =>
      ({}, room.tell (.serverBusy n.busy))
  | .tellReload => ({}, room.tell .reloadRequested)
  | .followCamera =>
    reading Task.syncParams CameraNotice.decoder parameters room fun n => ({}, room.followCamera n)
  | .followCursor =>
    reading Task.syncCursor CursorNotice.decoder parameters room fun n =>
      ({}, (room.followCursor n).2)
  | .followMeshes reporting =>
    match room.scene.applyParameters parameters with
    | .ok (r, scene) =>
      let room := { room with scene }
      ({}, if reporting then room.report r else room)
    | .error e => (failure e, room)
  | .scripted s =>
    let (reply, log) := s.run parameters room.log
    (ofScript reply, { room with log })

/-- The handlers that every client has. -/
def core : List (String × Handler) :=
  [(Task.initializeSession, .assignSession), (Task.isServerBusy, .tellBusy),
    (Task.forceReload, .tellReload), (Task.syncParams, .followCamera),
    (Task.syncCursor, .followCursor), (Task.syncMeshes, .followMeshes true)]

end Handler

end MeshRoom
