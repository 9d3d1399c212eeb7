import MeshRoom.Request.Basic
import MeshRoom.Wire.Mesh
import MeshRoom.Wire.Task

/-!
# Hooks of mesh entries

Plugins add to what is shown of a mesh by hooks, which run in the order they were added. A hook that
fails is passed over, what it added before failing staying in place.
-/

namespace MeshRoom

open Json Wire

/-- Something that adds to mesh entries. -/
inductive Hook where
  /-- A button that shows or hides the mesh. -/
  | visibilityToggle
  /-- A badge that says what the server found of the mesh. -/
  | healthBadge
  /-- A button with a label, before failing or not. -/
  | label (text : String) (fails : Bool)
deriving DecidableEq, Repr

/-- What came of hooks: the entry, whether they succeeded, the events they caused, and the server
after them. -/
structure Decorated where
  entry : MeshEntry
  succeeded : Bool := true
  events : List Event := []
  server : Server

namespace MeshEntry

/-- Add a control. -/
def addControl (c : EntryControl) (e : MeshEntry) : MeshEntry :=
  { e with controls := e.controls ++ [c] }

/-- The payload that names the mesh of an entry. -/
def payload (e : MeshEntry) : Value := .object [("meshes", .array [.string e.uuid])]

/-- The button that shows or hides a mesh. -/
def toggle (e : MeshEntry) : EntryControl where
  id := "toggleVisibility_" ++ e.uuid
  icon := if e.visible then "visibility" else "visibility_off"
  tooltip := "Toggle visibility"
  task := Task.toggleMeshVisibility
  parameters := e.payload

/-- The button that only has a label. -/
def labelled (text : String) (e : MeshEntry) : EntryControl where
  id := text
  icon := e.name
  tooltip := ""
  task := ""
  parameters := .null

end MeshEntry

namespace Wire.MeshHealth

/-- The badge of a mesh of some health. -/
def badge (h : MeshHealth) : EntryBadge :=
  if h.isClean then ⟨"check_circle", .ok⟩ else ⟨"warning", .warning⟩

/-- Reads what a server found of meshes. -/
def listing : Decoder (Entries MeshHealth) := fun room t => do
  let r ← Record.open? 1 room t
  r.required 0 ["meshes"] (.entries decoder)

end Wire.MeshHealth

namespace Hook

/-- Run a hook on an entry. -/
def run (h : Hook) (r : Requester) (own : Session) (e : MeshEntry) (server : Server) : Decorated :=
  match h with
  | .visibilityToggle => { entry := e.addControl e.toggle, server }
  | .label text fails => { entry := e.addControl (e.labelled text), succeeded := !fails, server }
  | .healthBadge =>
    let called := r.callAs MeshHealth.listing own Task.meshErrorInfo e.payload server
    let found := called.result.toOption.bind fun listing => listing.lookup e.uuid
    { entry := { e with badge := (found.map MeshHealth.badge).or e.badge }
      succeeded := found.isSome
      events := called.events
      server := called.server }

/-- Run hooks one after the other. -/
def runAll (r : Requester) (own : Session) (hooks : List Hook) (e : MeshEntry) (server : Server) :
    Decorated :=
  hooks.foldl
    (fun d h =>
      let next := h.run r own d.entry d.server
      { next with
        succeeded := d.succeeded && next.succeeded
        events := d.events ++ next.events })
    { entry := e, server }

end Hook

end MeshRoom
