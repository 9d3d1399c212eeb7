import MeshRoom.Session
import MeshRoom.Table
import MeshRoom.Wire.Envelope

/-!
# Dispatch

Every task has at most one handler, the one registered last. A frame is read as an envelope and its
parameters go to the handler of its task; a frame that is no envelope, an unknown task and a failing
handler are all told in the outcome and are otherwise without consequence.

Handlers are of any type `H`; how they run is given by a function, which changes a state `σ` and
says what the handler registers while it runs. The handler of a frame is looked up before it runs,
so that what it registers counts from the next frame on.
-/

namespace MeshRoom

open Json Wire

/-- Why a handler fails. -/
inductive HandlerError where
  | parameters (subject : String)
  | session (e : SessionError)
  | refusal (message : String)
deriving DecidableEq, Repr

/-- What is told about a failed handler. -/
def HandlerError.message : HandlerError → String
  | .parameters subject => subject ++ " parameters"
  | .session e => e.message
  | .refusal message => message

/-- What a handler answers: whether it succeeded, and the handlers it registers. -/
structure Reply (H : Type) where
  result : Except HandlerError Unit := .ok ()
  registers : List (String × H) := []

/-- What became of a frame. -/
inductive Outcome where
  | handled (task : String)
  | handlerFailed (task : String) (e : HandlerError)
  | unknownTask (task : String)
  | malformed (e : EnvelopeError)
deriving DecidableEq, Repr

def Outcome.isHandled : Outcome → Bool
  | .handled _ => true
  | _ => false

/-- The handlers by task. -/
structure Dispatcher (H : Type) where
  handlers : Table H := ∅

namespace Dispatcher

variable {H σ : Type}

/-- Make a handler the one of a task. -/
def register (d : Dispatcher H) (task : String) (h : H) : Dispatcher H :=
  ⟨d.handlers.insert task h⟩

/-- Make a handler the one of a task, and tell which one it replaces. -/
def replace (d : Dispatcher H) (task : String) (h : H) : Option H × Dispatcher H :=
  (d.handlers[task]?, d.register task h)

def has (d : Dispatcher H) (task : String) : Bool := d.handlers.contains task

def handler? (d : Dispatcher H) (task : String) : Option H := d.handlers[task]?

/-- The tasks that have a handler, in order. -/
def tasks (d : Dispatcher H) : List String := d.handlers.keys

/-- Register handlers one after the other. -/
def registerAll (d : Dispatcher H) (hs : List (String × H)) : Dispatcher H :=
  hs.foldl (fun d (task, h) => d.register task h) d

/-- The outcome of a handler's result. -/
def outcome (task : String) : Except HandlerError Unit → Outcome
  | .ok () => .handled task
  | .error e => .handlerFailed task e

variable (run : H → Value → σ → Reply H × σ)

/-- Hand the parameters of an envelope to the handler of its task. -/
def deliver (e : Envelope) (d : Dispatcher H) (s : σ) : Outcome × Dispatcher H × σ :=
  match d.handler? e.task with
  | none => (.unknownTask e.task, d, s)
  | some h =>
    let (reply, s) := run h e.parameters s
    (outcome e.task reply.result, d.registerAll reply.registers, s)

/-- Read a frame and deliver it. -/
def dispatch (text : String) (d : Dispatcher H) (s : σ) : Outcome × Dispatcher H × σ :=
  match Envelope.parse text with
  | .ok e => d.deliver run e s
  | .error e => (.malformed e, d, s)

end Dispatcher

end MeshRoom
