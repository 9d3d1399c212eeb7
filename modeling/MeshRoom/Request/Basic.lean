import MeshRoom.Event
import MeshRoom.Json.Decode
import MeshRoom.Request.Server
import MeshRoom.Session

/-!
# Requests

A client asks its server for a task by posting a payload to the address of the task in its room. The
payload carries the session: an object that does not name one is given the identity of the session,
while a list goes out as it is. Every failure up to the response is told as an event.
-/

namespace MeshRoom

open Json Wire

/-- Why a request fails. -/
inductive RequestError where
  | noSession
  | invalidPayload
  | url
  | http
  | unexpectedStatus (status : Nat) (body : String)
  | decode (task : String)
deriving DecidableEq, Repr

/-- What is told about a failed request. -/
def RequestError.message : RequestError → String
  | .noSession => "no session assigned yet"
  | .invalidPayload => "request payload must be a json object or array"
  | .url => "invalid request url"
  | .http => "http request failed"
  | .unexpectedStatus status body =>
    "unexpected status: " ++ toString status ++ " body=" ++ body
  | .decode task => "response to " ++ task ++ " is not the expected json"

/-- What a user is told of a failed task. -/
def RequestError.userMessage (task : String) : String := "Error: " ++ task

/-- What came of a request: its result, the events it caused, and the server after it. -/
structure Called (α : Type) where
  result : Except RequestError α
  events : List Event := []
  server : Server

/-- What requests are made with: where they go, and whether failures are told. -/
structure Requester where
  base : Url
  room : String
  reporting : Bool := true
deriving DecidableEq, Repr

/-! ### The session in a payload -/

/-- The member of a payload that names the session. -/
def sessionField : String := "sessionUUID"

/-- Whether the members of a payload name a session. -/
def namesSession (members : Entries Value) : Bool :=
  match members.lookup sessionField with
  | some (.string id) => !id.isEmpty
  | _ => false

/-- The members of a payload with the session named. -/
def stampMembers (own : Session) (members : Entries Value) : Except RequestError (Entries Value) :=
  if namesSession members then .ok members
  else
    match own.id with
    | some id => .ok (Entries.insert sessionField (.string id) members)
    | none => .error .noSession

/-- The body that is sent for a payload. No payload counts as an empty object. -/
def stamp (own : Session) : Value → Except RequestError Value
  | .object members => (stampMembers own members).map .object
  | .null => (stampMembers own []).map .object
  | .array items => .ok (.array items)
  | _ => .error .invalidPayload

/-! ### Calls -/

namespace Requester

/-- The address of a task. -/
def taskUrl? (r : Requester) (task : String) : Option Url := r.base.join? (r.room ++ "/" ++ task)

/-- Where a request goes and what it carries. The payload is looked at first. -/
def prepare (r : Requester) (own : Session) (task : String) (payload : Value) :
    Except RequestError (Url × Value) := do
  let body ← stamp own payload
  match r.taskUrl? task with
  | some u => .ok (u, body)
  | none => .error .url

/-- The result of what a server answered. -/
def resultOf : Option Response → Except RequestError String
  | none => .error .http
  | some a => if a.isSuccess then .ok a.body else .error (.unexpectedStatus a.status a.body)

/-- Send a request. -/
def send (r : Requester) (own : Session) (task : String) (payload : Value) (server : Server) :
    Except RequestError String × Server :=
  match r.prepare own task payload with
  | .error e => (.error e, server)
  | .ok (u, body) =>
    let (answer, server) := server.post u body
    (resultOf answer, server)

/-- The events that a result causes. -/
def eventsOf {α : Type} (r : Requester) (task : String) : Except RequestError α → List Event
  | .ok _ => []
  | .error _ =>
    if r.reporting then [.requestFailed task (RequestError.userMessage task)] else []

/-- Send a request, and tell its failure. -/
def call (r : Requester) (own : Session) (task : String) (payload : Value) (server : Server) :
    Called String :=
  let (result, server) := r.send own task payload server
  { result, events := r.eventsOf task result, server }

/-- Read the body of a response. -/
def decodeBody {α : Type} (task : String) (d : Decoder α) (body : String) :
    Except RequestError α :=
  match d.onText body with
  | some x => .ok x
  | none => .error (.decode task)

/-- Send a request, tell its failure, and read the body of the response. -/
def callAs {α : Type} (d : Decoder α) (r : Requester) (own : Session) (task : String)
    (payload : Value) (server : Server) : Called α :=
  let called := r.call own task payload server
  { called with result := called.result.bind (decodeBody task d) }

end Requester

end MeshRoom
