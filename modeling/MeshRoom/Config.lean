import MeshRoom.Duration
import MeshRoom.Text.Blank
import MeshRoom.Text.Digits
import MeshRoom.Url.Parse

/-!
# Configuration

Where the room server is and how patient the client is. Settings come from the environment, each
with a default; one server setting yields two addresses, the base of the requests and the room
channel, which agree on whether they are encrypted.
-/

namespace MeshRoom

/-- The settings of a client. Encryption is told by the server setting unless it is chosen. -/
structure Config where
  server : String := "127.0.0.1:8080"
  room : String := "default"
  useTls : Option Bool := none
  frameInterval : Duration := ⟨16⟩
  sessionTimeout : Duration := ⟨5000⟩
  logFilter : String := "info,geoview=debug,geoview_client_core=debug"
deriving DecidableEq, Repr

namespace Config

/-! ### Server settings -/

/-- A text cut at the first `://`, if it has one. -/
def splitScheme : List Char → Option (List Char × List Char)
  | ':' :: '/' :: '/' :: rest => some ([], rest)
  | c :: rest => (splitScheme rest).map fun (scheme, host) => (c :: scheme, host)
  | [] => none

/-- The name of the own machine. -/
def localName : List Char := "localhost".toList

/-- The address that stands for the own machine. -/
def localAddress : List Char := "127.0.0.1".toList

/-- A text whose start names the own machine, with its address there instead. -/
def replaceLocal (cs : List Char) : List Char :=
  if localName.isPrefixOf cs then localAddress ++ cs.drop localName.length else cs

/-- A server setting with the own machine given by address. -/
def normalizeServer (server : String) : String :=
  match splitScheme server.toList with
  | some (scheme, rest) => String.ofList (scheme ++ "://".toList ++ replaceLocal rest)
  | none => String.ofList (replaceLocal server.toList)

/-- A server setting without scheme and final slashes. -/
def hostPart (server : String) : List Char :=
  let rest := match splitScheme server.toList with
    | some (_, rest) => rest
    | none => server.toList
  (rest.reverse.dropWhile (· = '/')).reverse

/-- The settings with another server. -/
def withServer (c : Config) (server : String) : Config :=
  { c with server := normalizeServer server }

/-! ### Encryption -/

/-- Whether a server setting asks for encryption: by its scheme, or by the usual port. -/
def asksForTls (server : String) : Bool :=
  "https://".toList.isPrefixOf server.toList || "wss://".toList.isPrefixOf server.toList ||
    ":443".toList.isSuffixOf (hostPart server)

/-- Whether connections are encrypted. -/
def tls (c : Config) : Bool := c.useTls.getD (asksForTls c.server)

/-! ### Addresses -/

/-- The base of the requests. -/
def httpBase? (c : Config) : Option Url :=
  Url.parse? ((if c.tls then "https" else "http") ++ "://" ++ String.ofList (hostPart c.server) ++ "/")

/-- The address of the room channel. -/
def channelUrl? (c : Config) : Option Url :=
  Url.parse? ((if c.tls then "wss" else "ws") ++ "://" ++ String.ofList (hostPart c.server) ++ "/" ++
    c.room ++ "/")

/-! ### Environment -/

/-- A positive count of milliseconds that fits sixty-four bits, blanks around it ignored. -/
def millis? (setting : String) : Option Duration :=
  let cs := Text.trim setting.toList
  let digits := match cs with
    | '+' :: ds => ds
    | ds => ds
  let n := Text.decimalValue digits
  if digits ≠ [] ∧ digits.all Char.isDigit ∧ 0 < n ∧ n < UInt64.size then some ⟨n⟩ else none

/-- Whether a setting says yes. -/
def saysYes (setting : String) : Bool :=
  ["1", "true", "yes"].contains (String.ofList (setting.toList.map Char.toLower))

/-- The settings of an environment. -/
def ofEnvironment (env : String → Option String) : Config :=
  let base : Config := {}
  { server := normalizeServer ((env "GEOVIEW_SERVER").getD base.server)
    room := (env "GEOVIEW_ROOM").getD base.room
    useTls := (env "GEOVIEW_TLS").map saysYes
    frameInterval := ((env "GEOVIEW_FRAME_INTERVAL_MS").bind millis?).getD base.frameInterval
    sessionTimeout := ((env "GEOVIEW_SESSION_TIMEOUT_MS").bind millis?).getD base.sessionTimeout
    logFilter := (env "RUST_LOG").getD base.logFilter }

end Config

/-! ### Connecting -/

/-- Where the room channel connects to, and how long that may take. -/
structure ChannelConfig where
  url : Url
  connectTimeout : Duration := .ofSeconds 10
deriving DecidableEq, Repr

namespace ChannelConfig

def ofConfig? (c : Config) : Option ChannelConfig := c.channelUrl?.map fun url => { url }

/-- Whether the channel is encrypted. -/
def useTls (c : ChannelConfig) : Bool := c.url.scheme = "wss"

end ChannelConfig

/-- What a client needs besides its channel. -/
structure ClientOptions where
  room : String
  httpBase : Url
  sessionTimeout : Duration
  frameInterval : Duration
deriving DecidableEq, Repr

def ClientOptions.ofConfig? (c : Config) : Option ClientOptions :=
  c.httpBase?.map fun httpBase =>
    { room := c.room, httpBase, sessionTimeout := c.sessionTimeout, frameInterval := c.frameInterval }

end MeshRoom
