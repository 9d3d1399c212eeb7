import MeshRoom.Plugin.Hook
import MeshRoom.Plugin.Source
import MeshRoom.Room.Basic

/-!
# Plugin modules

A module is initialised once, and then stands by its handlers and hooks. Some come with the client;
others are laid down as data and log when they begin and when they are done.
-/

namespace MeshRoom

open Wire

/-- What a module laid down as data does when it is initialised. -/
inductive ModuleStep where
  | fail (message : String)
  | handle (task : String) (script : Script)
  | decorate (fails : Bool)
deriving DecidableEq, Repr

/-- The module of a plugin. -/
inductive Module where
  /-- A task whose parameters are a delta. -/
  | deltaTask (task : String)
  /-- A button on every mesh that shows or hides it, and the task it activates. -/
  | visibilityToggle
  /-- A badge on every mesh that says what the server found of it. -/
  | healthBadge
  | scripted (label : String) (step : ModuleStep)
deriving DecidableEq, Repr

/-- What a module does when it is initialised: whether it succeeds, the handlers and hooks it adds,
and what it logs. -/
structure Installation where
  result : Except HandlerError Unit := .ok ()
  handlers : List (String × Handler) := []
  hooks : List Hook := []
  log : List LogEntry := []

namespace Module

/-- Initialise a module, given the handler of deltas. -/
def init (m : Module) (deltas : Handler) : Installation :=
  match m with
  | .deltaTask task => { handlers := [(task, deltas)] }
  | .visibilityToggle =>
    { handlers := [(Task.toggleMeshVisibility, deltas)], hooks := [.visibilityToggle] }
  | .healthBadge => { hooks := [.healthBadge] }
  | .scripted label (.fail message) =>
    { result := .error (.refusal message), log := [.began label] }
  | .scripted label (.handle task script) =>
    { handlers := [(task, .scripted script)], log := [.began label, .finished label] }
  | .scripted label (.decorate fails) =>
    { hooks := [.label label fails], log := [.began label, .finished label] }

/-- The plugins that come with the client, each a module under its own name. -/
def builtin : List (String × Module) :=
  [(Task.undo, .deltaTask Task.undo), (Task.redo, .deltaTask Task.redo),
    (Task.loadPolygonMesh, .deltaTask Task.loadPolygonMesh),
    (Task.toggleMeshVisibility, .visibilityToggle), (Task.meshErrorInfo, .healthBadge)]

end Module

namespace ModuleSource

/-- The source of the modules that come with the client. -/
def builtin : ModuleSource Module :=
  Module.builtin.foldl (fun s (name, m) => s.register name m) {}

end ModuleSource

end MeshRoom
