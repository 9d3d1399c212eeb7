import MeshRoom.Client.Lifecycle
import MeshRoom.View.Headless

/-!
# Command line

Plays the frames of a room, one to a line of standard input, to a client with a headless view, and
prints what the client tells its interface and what it sends. The settings are those of the
environment, which options replace. No server is asked for anything.
-/

namespace MeshRoom.CommandLine

/-- What the options say. -/
structure Options where
  server : Option String := none
  room : Option String := none
  width : Nat := 1280
  height : Nat := 720

/-- Why the options cannot be followed. -/
inductive UsageError where
  | unknown (option : String)
  | missingValue (option : String)
  | notANumber (option value : String)

def UsageError.message : UsageError → String
  | .unknown option => "unexpected argument " ++ option
  | .missingValue option => "a value is required for " ++ option
  | .notANumber option value => "invalid value " ++ value ++ " for " ++ option

/-- Follow one option. -/
def Options.set (o : Options) (option value : String) : Except UsageError Options :=
  let number (f : Nat → Options) : Except UsageError Options :=
    match value.toNat? with
    | some n => .ok (f n)
    | none => .error (.notANumber option value)
  match option with
  | "--server" => .ok { o with server := some value }
  | "--room" => .ok { o with room := some value }
  | "--width" => number fun width => { o with width }
  | "--height" => number fun height => { o with height }
  | _ => .error (.unknown option)

/-- Follow options, each with its value behind it. -/
def Options.ofArgs : List String → Options → Except UsageError Options
  | [], o => .ok o
  | [option], _ => .error (.missingValue option)
  | option :: value :: rest, o => do Options.ofArgs rest (← o.set option value)

/-- The settings of an environment, with options in their place. -/
def settings (env : String → Option String) (o : Options) : Config :=
  let base := Config.ofEnvironment env
  let c := o.server.elim base base.withServer
  { c with room := o.room.getD c.room }

/-- What is printed of an event. -/
def describe : Event → String
  | .sessionAssigned id => "session " ++ id
  | .serverBusy busy => if busy then "server is busy" else "server is idle"
  | .reloadRequested => "server requested a reload, restart the client"
  | .disconnected reason => "disconnected from room: " ++ reason
  | .requestFailed task message => task ++ ": " ++ message
  | .pluginFailed name message => "plugin " ++ name ++ ": " ++ message
  | .pluginsLoaded names => "plugins loaded: " ++ ", ".intercalate names
  | .entryUpdated e =>
    "mesh entry " ++ e.uuid ++ " " ++ e.name ++ ": " ++ toString e.vertexCount ++ " vertices, " ++
      toString e.faceCount ++ " faces"
  | .entryRemoved uuid => "mesh entry " ++ uuid ++ " removed"
  | .ready => "ready"

/-- Play frames to a client, and leave the room. What is printed, and whether the client started. -/
def play (options : ClientOptions) (view : HeadlessView) (frames : List String) :
    List String × Bool :=
  let channel := frames.foldl MemoryChannel.push {}
  let server : Server := { address := options.httpBase, isUp := false }
  let joined := Client.join options channel view server
  let (started, c) := joined.start .builtin options.sessionTimeout
  match started with
  | .error e => ([e.message], false)
  | .ok () =>
    let c := c.settle.shutdown
    (c.room.events.map describe ++ c.channel.sent ++ ["left room"], true)

/-- Read lines until there are no more. -/
partial def readLines (input : IO.FS.Stream) (lines : List String) : IO (List String) := do
  let line ← input.getLine
  if line.isEmpty then return lines.reverse
  readLines input (line :: lines)

/-- The environment variables that settings come from. -/
def settingNames : List String :=
  ["GEOVIEW_SERVER", "GEOVIEW_ROOM", "GEOVIEW_TLS", "GEOVIEW_FRAME_INTERVAL_MS",
    "GEOVIEW_SESSION_TIMEOUT_MS", "RUST_LOG"]

/-- Run the command line. -/
def run (args : List String) : IO UInt32 := do
  match Options.ofArgs args {} with
  | .error e =>
    IO.eprintln e.message
    return 2
  | .ok o =>
    let env ← settingNames.mapM fun name => do return (name, ← IO.getEnv name)
    let config := settings (fun name => (env.lookup name).join) o
    match ClientOptions.ofConfig? config with
    | none =>
      IO.eprintln "invalid room url"
      return 1
    | some options =>
      let icon ← IO.rand 0 9
      let middle (n : Nat) : Single := Single.ofInt n / 2
      let view := HeadlessView.ofWindow o.width o.height
      let view := view.movePointer (middle o.width) (middle o.height) (UInt32.ofNat icon)
      let (lines, started) := play options view (← readLines (← IO.getStdin) [])
      lines.forM IO.println
      return if started then 0 else 1

end MeshRoom.CommandLine

def main (args : List String) : IO UInt32 := MeshRoom.CommandLine.run args
