import MeshRoom.Client.Basic
import MeshRoom.Config

/-!
# The life of a client

A client joins a room over a channel that is already open, and is then started: once it has an
identity it loads its plugins, pulls the meshes of the room and then its canvas, and begins to tell
the room of its camera and cursor. Framing the meshes moves the camera, which is why the canvas
comes after them. No request that fails keeps the client from starting.

On leaving, it tells the room that its cursor is gone, closes the channel without reporting a loss,
and gives up its meshes.
-/

namespace MeshRoom

open Json Wire

namespace Client

variable {V : Type} [View V]

/-- Join a room: the handlers every client has are there, and the channel is watched. -/
def join (options : ClientOptions) (channel : MemoryChannel) (view : V) (server : Server) :
    Client V where
  room := { scene := { view } }
  channel := channel.listen
  requester := { base := options.httpBase, room := options.room }
  server := server
  dispatcher := Dispatcher.registerAll {} Handler.core
  listener := channel.listeners

/-! ### Starting -/

/-- Load the plugins that the server lists. -/
def loadPlugins (source : ModuleSource Module) (c : Client V) : Client V :=
  let (listed, told, server) := c.requester.listPlugins c.room.session c.server
  let descriptors := match listed with
    | .ok ds => ds
    | .error _ => []
  let plugins := LoadReport.load source (.followMeshes true) descriptors
  { c with
    server
    plugins
    dispatcher := c.dispatcher.registerAll plugins.handlers
    hooks := c.hooks ++ plugins.hooks
    room :=
      { c.room with
        events := c.room.events ++ told ++ plugins.events ++ [.pluginsLoaded plugins.loadedNames]
        log := c.room.log ++ plugins.log } }

/-- Pull the meshes of the room. -/
def pullMeshes (c : Client V) : Client V :=
  match c.callAs MeshDelta.decoder Task.pullCurrentMeshes (.object []) with
  | (.ok delta, c) => { c with room := c.room.applyMeshes delta }
  | (.error _, c) => c

/-- Pull the canvas of the room. -/
def pullCanvas (c : Client V) : Client V :=
  match c.callAs Canvas.decoder Task.pullCanvasParameters (.object []) with
  | (.ok canvas, c) => { c with room := c.room.seed canvas }
  | (.error _, c) => c

/-- What follows once the client has its identity. -/
def boot (source : ModuleSource Module) (c : Client V) : Client V :=
  ((c.loadPlugins source).pullMeshes.pullCanvas.tell .ready).frame

/-- Start a client, which has to get its identity within a limit. -/
def start (source : ModuleSource Module) (limit : Duration) (c : Client V) :
    Except SessionError Unit × Client V :=
  let c := c.settle
  match c.room.session.await limit [] with
  | .error e => (.error e, c)
  | .ok _ => (.ok (), c.boot source)

/-! ### Leaving -/

/-- Tell the room that the own cursor is gone. -/
def sayFarewell (c : Client V) : Client V :=
  match Sync.farewell? c.room.session c.room.controls with
  | some text => { c with channel := c.channel.post text }
  | none => c

/-- Close the channel. -/
def close (c : Client V) : Client V := { c with channel := c.channel.close }

/-- Give up every mesh. -/
def release (c : Client V) : Client V :=
  { c with room := { c.room with scene := c.room.scene.clear.2 } }

/-- Leave the room. -/
def shutdown (c : Client V) : Client V := c.sayFarewell.close.release

end Client

end MeshRoom
