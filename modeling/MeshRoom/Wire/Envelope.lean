import MeshRoom.Json.Decode

/-!
# Envelopes

A frame of the room channel is a JSON object that names a task and carries its parameters. Frames
come in two shapes: with a `parameters` member, or flat, where every other member is a parameter.
`Envelope.parse` reads both; `Envelope.text` writes the first and `flatMessage` the second.
-/

namespace MeshRoom.Wire

open Json

/-- A task with its parameters. -/
structure Envelope where
  task : String
  parameters : Value
deriving DecidableEq

/-- Why a frame is no envelope. -/
inductive EnvelopeError where
  | invalidJson
  | notAnObject
  | missingTask
  | taskNotString
deriving DecidableEq, Repr

/-- What is told about a frame that is no envelope. -/
def EnvelopeError.message : EnvelopeError → String
  | .invalidJson => "envelope is not valid json"
  | .notAnObject => "envelope is not a json object"
  | .missingTask => "envelope has no task field"
  | .taskNotString => "envelope task field is not a string"

namespace Envelope

/-- The names under which a frame may carry its task, the first that occurs being the one used. -/
def taskNames : List String := ["task", "API"]

/-- Take the first of the names that occurs. -/
def takeFirst? (names : List String) (members : Entries Value) :
    Option (Value × Entries Value) :=
  names.findSome? fun k => Entries.take? k members

/-- The envelope that the members of a frame make up. -/
def ofMembers (members : Entries Value) : Except EnvelopeError Envelope :=
  match takeFirst? taskNames members with
  | none => .error .missingTask
  | some (.string task, rest) =>
    match Entries.take? "parameters" rest with
    | some (parameters, _) => .ok ⟨task, parameters⟩
    | none => .ok ⟨task, .object rest⟩
  | some _ => .error .taskNotString

/-- Read a frame of either shape. -/
def parse (text : String) : Except EnvelopeError Envelope :=
  match Value.read? text with
  | none => .error .invalidJson
  | some (.object members) => ofMembers members
  | some _ => .error .notAnObject

/-- An envelope as an object of two members. -/
def toValue (e : Envelope) : Value :=
  .object [("task", .string e.task), ("parameters", e.parameters)]

/-- The frame of an envelope. -/
def text (e : Envelope) : String := e.toValue.text

/-- Reads an envelope as a plain record, with no parameters taken as none given. -/
def decoder : Decoder Envelope := fun room t => do
  let r ← Record.open? 2 room t
  let task ← r.required 0 ["task"] .string
  let parameters ← r.optional 1 ["parameters"] .value (.object [])
  some ⟨task, parameters⟩

end Envelope

/-- The flat frame of a body: the task joins the members of an object, and any other body is
carried as parameters. -/
def flatValue (task : String) : Value → Value
  | .object members => .object (Entries.insert "task" (.string task) members)
  | body => (Envelope.mk task body).toValue

/-- The text of the flat frame of a document. -/
def flatMessage (task : String) (body : Document) : String := (flatValue task body.toValue).text

/-! ### Session and server state -/

/-- The identity a server gives a session. -/
structure SessionGrant where
  session : String
deriving DecidableEq, Repr

/-- Whether the server is busy. -/
structure BusyNotice where
  busy : Bool
deriving DecidableEq, Repr

def SessionGrant.document (g : SessionGrant) : Document :=
  .record [.always "sessionUUID" (.string g.session)]

def SessionGrant.decoder : Decoder SessionGrant := fun room t => do
  let r ← Record.open? 1 room t
  let session ← r.required 0 ["sessionUUID"] .string
  some ⟨session⟩

def BusyNotice.document (n : BusyNotice) : Document :=
  .record [.always "isBusy" (.bool n.busy)]

def BusyNotice.decoder : Decoder BusyNotice := fun room t => do
  let r ← Record.open? 1 room t
  let busy ← r.required 0 ["isBusy"] .bool
  some ⟨busy⟩

end MeshRoom.Wire
