import MeshRoom.Plugin.Loader
import MeshRoom.Sync.Frame

/-!
# Clients

A client has joined one room for as long as its channel lasts. It does several things side by side,
each a step of its own that may come at any time: it receives frames in the order they arrive,
watches for the loss of the channel, renders what reports say has changed, and, on every frame of
the screen, tells the room where camera and cursor are.
-/

namespace MeshRoom

open Json Wire

/-- What is being rendered: meshes that may be gone, meshes to show, and the entry that hooks are
adding to, with the hooks still to run. -/
structure Renderer where
  gone : List String := []
  shown : List String := []
  current : Option (MeshEntry × List Hook) := none
deriving DecidableEq

/-- One joined room. -/
structure Client (V : Type) where
  room : Room V
  channel : MemoryChannel
  requester : Requester
  server : Server
  dispatcher : Dispatcher Handler := {}
  hooks : List Hook := []
  renderer : Renderer := {}
  listener : Nat := 0
  lossTold : Bool := false
  plugins : LoadReport := {}

namespace Client

variable {V : Type} [View V]

def isConnected (c : Client V) : Bool := c.channel.isOpen

/-- Tell the interface something. -/
def tell (e : Event) (c : Client V) : Client V := { c with room := c.room.tell e }

/-! ### Frames -/

/-- Dispatch a frame. -/
def handle (text : String) (c : Client V) : Outcome × Client V :=
  let (outcome, dispatcher, room) := c.dispatcher.dispatch Handler.run text c.room
  (outcome, { c with dispatcher, room })

/-- Receive the next frame, if one has arrived, and dispatch it. -/
def receive? (c : Client V) : Option (Client V) :=
  match c.channel.receive with
  | (.frame text, channel) => some ({ c with channel }.handle text).2
  | _ => none

/-- Receive up to so many frames. -/
def receiveMany : Nat → Client V → Client V
  | 0, c => c
  | n + 1, c =>
    match c.receive? with
    | some c => receiveMany n c
    | none => c

/-- Receive every frame that has arrived. -/
def receiveAll (c : Client V) : Client V := c.receiveMany c.channel.inbound.length

/-! ### The loss of the channel -/

/-- Tell the loss of the channel once, if the client's listener has been told. -/
def watch (c : Client V) : Client V :=
  match c.channel.losses.find? fun l => l.listener = c.listener with
  | some loss =>
    if c.lossTold then c else { c with lossTold := true }.tell (.disconnected loss.reason)
  | none => c

/-! ### Requests -/

/-- Send a request, and tell its failure. -/
def call (task : String) (payload : Value) (c : Client V) :
    Except RequestError String × Client V :=
  let called := c.requester.call c.room.session task payload c.server
  (called.result, called.events.foldl (fun c e => c.tell e) { c with server := called.server })

/-- Send a request, tell its failure, and read the body of the response. -/
def callAs {α : Type} (d : Decoder α) (task : String) (payload : Value) (c : Client V) :
    Except RequestError α × Client V :=
  let called := c.requester.callAs d c.room.session task payload c.server
  (called.result, called.events.foldl (fun c e => c.tell e) { c with server := called.server })

/-- Activate a control of a mesh entry. -/
def activate (control : EntryControl) (c : Client V) : Except RequestError String × Client V :=
  c.call control.task control.parameters

/-! ### Rendering -/

/-- Run one hook on an entry. -/
def decorate (h : Hook) (e : MeshEntry) (c : Client V) : MeshEntry × Client V :=
  let d := h.run c.requester c.room.session e c.server
  (d.entry, d.events.foldl (fun c e => c.tell e) { c with server := d.server })

/-- Go on rendering, if there is anything to render. An entry starts from the mesh as it is when its
turn comes, and hooks run on it one by one; a mesh is told gone only if it is still not there. -/
def render? (c : Client V) : Option (Client V) :=
  match c.renderer.current, c.renderer.gone, c.renderer.shown, c.room.reports with
  | some (entry, []), _, _, _ =>
    some ({ c with renderer := { c.renderer with current := none } }.tell (.entryUpdated entry))
  | some (entry, h :: hooks), _, _, _ =>
    let (entry, c) := c.decorate h entry
    some { c with renderer := { c.renderer with current := some (entry, hooks) } }
  | none, uuid :: gone, _, _ =>
    let c := { c with renderer := { c.renderer with gone } }
    some (if c.room.scene.has uuid then c else c.tell (.entryRemoved uuid))
  | none, [], uuid :: shown, _ =>
    let current := (c.room.scene.resource? uuid).map fun r => (MeshEntry.ofResource r, c.hooks)
    some { c with renderer := { shown, current } }
  | none, [], [], report :: reports =>
    some
      { c with
        room := { c.room with reports }
        renderer := { gone := report.removed, shown := report.added ++ report.updated } }
  | none, [], [], [] => none

/-- How many steps it takes to render an entry. -/
def entryWork (c : Client V) : Nat := c.hooks.length + 2

/-- How many steps it takes to render a report. -/
def reportWork (c : Client V) (r : Report) : Nat :=
  1 + r.removed.length + (r.added ++ r.updated).length * c.entryWork

/-- How many steps rendering may take. -/
def work (c : Client V) : Nat :=
  (c.renderer.current.map fun (_, hooks) => hooks.length + 1).getD 0 + c.renderer.gone.length +
    c.renderer.shown.length * c.entryWork + c.room.reports.foldl (fun n r => n + c.reportWork r) 0

/-- Render for up to so many steps. -/
def renderMany : Nat → Client V → Client V
  | 0, c => c
  | n + 1, c =>
    match c.render? with
    | some c => renderMany n c
    | none => c

/-- Render everything there is to render. -/
def renderAll (c : Client V) : Client V := c.renderMany c.work

/-- Receive, watch and render until there is nothing left to do. -/
def settle (c : Client V) : Client V := c.receiveAll.watch.renderAll

/-! ### Frames of the screen -/

/-- Tick, and send what there is to tell. -/
def tick (c : Client V) : Tick × Client V :=
  let (t, sync, channel) := c.room.sync.tickAndSend c.room.session c.room.controls c.channel
  (t, { c with room := { c.room with sync }, channel })

/-- A frame of the loop, which ends with the channel. -/
def frame (c : Client V) : Client V := if c.isConnected then c.tick.2 else c

end Client

end MeshRoom
