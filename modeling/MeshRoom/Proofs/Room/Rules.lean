import MeshRoom.Room.Basic
import Mathlib.Tactic.Lemma

/-!
# Rules of a room

Everything that a handler can do to a room, as a rule for each way it can go: it fails and leaves
the room alone, it gives the session its identity, tells an event, follows a camera, a cursor or a
delta, or logs that it was called.
-/

namespace MeshRoom

open Json Wire

namespace Handler

variable {V : Type} [View V]

/-- The ways in which a handler that is given parameters can change a room. -/
inductive Rule (parameters : Value) (room : Room V) : Handler → Room V → Prop where
  | failed (h : Handler) : Rule parameters room h room
  | assign (id : String) (session : Session) (hassign : room.session.assign id = .ok session) :
      Rule parameters room .assignSession ({ room with session }.tell (.sessionAssigned id))
  | busy (n : BusyNotice) : Rule parameters room .tellBusy (room.tell (.serverBusy n.busy))
  | reload : Rule parameters room .tellReload (room.tell .reloadRequested)
  | camera (n : CameraNotice) (hn : CameraNotice.decoder.onValue parameters = some n) :
      Rule parameters room .followCamera (room.followCamera n)
  | cursor (n : CursorNotice) : Rule parameters room .followCursor (room.followCursor n).2
  | meshes (reporting : Bool) (r : Report) (scene : Scene V)
      (happly : room.scene.applyParameters parameters = .ok (r, scene)) :
      Rule parameters room (.followMeshes reporting)
        (if reporting then { room with scene }.report r else { room with scene })
  | log (s : Script) (log : List LogEntry) : Rule parameters room (.scripted s) { room with log }

lemma Rule.of_run (h : Handler) (parameters : Value) (room : Room V) :
    Rule parameters room h (h.run parameters room).2 := by
  cases h with
  | assignSession =>
    simp only [run, reading]
    split
    case h_1 grant _ =>
      cases hassign : room.session.assign grant.session with
      | ok session => exact .assign grant.session session hassign
      | error => exact .failed _
    case h_2 => exact .failed _
  | tellBusy =>
    simp only [run, reading]
    split
    case h_1 n _ => exact .busy n
    case h_2 => exact .failed _
  | tellReload => exact .reload
  | followCamera =>
    simp only [run, reading]
    split
    case h_1 n hn => exact .camera n hn
    case h_2 => exact .failed _
  | followCursor =>
    simp only [run, reading]
    split
    case h_1 n _ => exact .cursor n
    case h_2 => exact .failed _
  | followMeshes reporting =>
    cases happly : room.scene.applyParameters parameters with
    | ok applied =>
      simp only [run, happly]
      exact .meshes reporting applied.1 applied.2 happly
    | error =>
      simp only [run, happly]
      exact .failed _
  | scripted s => exact .log s _

namespace Rule

variable {parameters : Value} {room room' : Room V} {h : Handler}

/-- Only the handler of identities touches the session. -/
lemma session (hrule : Rule parameters room h room') (hh : h ≠ .assignSession) :
    room'.session = room.session := by
  cases hrule with
  | assign => exact absurd rfl hh
  | meshes reporting => cases reporting <;> rfl
  | _ => rfl

/-- Only the handler of cameras touches the baseline. -/
lemma baseline (hrule : Rule parameters room h room') (hh : h ≠ .followCamera) :
    room'.sync.baseline = room.sync.baseline := by
  cases hrule with
  | camera => exact absurd rfl hh
  | meshes reporting => cases reporting <;> rfl
  | _ => rfl

/-- Beside it, only the handlers of deltas touch the scene. -/
lemma scene (hrule : Rule parameters room h room') (hh : h ≠ .followCamera)
    (hmeshes : ∀ reporting, h ≠ .followMeshes reporting) : room'.scene = room.scene := by
  cases hrule with
  | camera => exact absurd rfl hh
  | meshes reporting => exact absurd rfl (hmeshes reporting)
  | _ => rfl

end Rule

end Handler

end MeshRoom
