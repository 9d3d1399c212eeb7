import MeshRoom.Channel.Basic
import MeshRoom.Config

/-!
# Sockets

A channel of text frames carried by a socket. Two tasks run beside its owner: the writer takes what
was sent from a queue and writes it, and the reader takes what arrives and keeps the texts to be
received. Each does one thing at a time, in any order with the other and with the owner.

The channel is lost when the other side closes it or it breaks, which the reader finds out, or when
the writer fails to write. A frame that is longer than it may be cannot be read, nor can a message
of several frames, and so breaks the channel. The owner closes it by a last frame behind everything
that was sent, and waits for the writer to write that before it stops the reader. Whoever marks the
channel closed first decides what is told: the loss, with its reason, or nothing.
-/

namespace MeshRoom

/-! ### Frames -/

/-- What the writer writes. -/
inductive Outgoing where
  | text (t : String)
  | close
deriving DecidableEq, Repr

/-- What the reader finds. A text or bytes come in one frame or in several; then `cuts` says how
many bytes each of these carries but the last, and other frames that come in between are found
before. -/
inductive Incoming where
  | text (t : String) (cuts : List Nat := [])
  | binary (bytes : List UInt8) (cuts : List Nat := [])
  | ping (bytes : List UInt8)
  | pong (bytes : List UInt8)
  | close (cause : Option (Nat × String))
  | failure (message : String)
  | finished
deriving DecidableEq, Repr

/-- What the reader does about what it finds: receive a text, pass over it, or end with a reason. -/
inductive ReadEffect where
  | receive (t : String)
  | skip
  | stop (reason : String)
deriving DecidableEq, Repr

namespace Incoming

/-- The most bytes that a frame carries. -/
def frameLimit : Nat := 16777216

/-- The most bytes that the frames of a message carry together. -/
def messageLimit : Nat := 67108864

/-- The most bytes that a control frame carries. -/
def controlLimit : Nat := 125

/-- What is told of so many bytes where fewer may be. -/
def tooLong (size limit : Nat) : String :=
  s!"Space limit exceeded: Message too long: {size} > {limit}"

/-- What is told of a control frame that carries more. -/
def oversized : String :=
  "WebSocket protocol error: Control frame too big (payload must be 125 bytes or less)"

/-- The end of a line that nobody closed. -/
def severed : Incoming :=
  .failure "WebSocket protocol error: Connection reset without closing handshake"

/-- The codes that a close frame may carry. -/
def isCloseCode (code : Nat) : Bool :=
  (1000 ≤ code && code ≤ 1003) || (1007 ≤ code && code ≤ 1013) || (3000 ≤ code && code ≤ 4999)

/-- The reason that a close frame gives. -/
def closeReason : Option (Nat × String) → String
  | none => "closed by server"
  | some (code, reason) =>
    if !isCloseCode code then "Protocol violation"
    else if reason.isEmpty then "closed by server"
    else reason

/-- The text that bytes spell, if they spell one. -/
def spelled? (bytes : List UInt8) : Option String := String.fromUTF8? ⟨bytes.toArray⟩

/-- So many bytes, cut into portions. -/
def cutInto (size : Nat) : List Nat → List Nat
  | [] => [size]
  | cut :: cuts => min cut size :: cutInto (size - cut) cuts

/-- How many bytes there are in each frame. -/
def portions : Incoming → List Nat
  | .text t cuts => cutInto t.utf8ByteSize cuts
  | .binary bytes cuts => cutInto bytes.length cuts
  | .ping bytes | .pong bytes => [bytes.length]
  | .close (some (_, reason)) => [reason.utf8ByteSize + 2]
  | .close none => [0]
  | .failure _ | .finished => []

/-- What is told of the first portion that is too long for a frame, or makes the message too long,
so many bytes of which have been there before. -/
def excess? (before : Nat) : List Nat → Option String
  | [] => none
  | n :: sizes =>
    if frameLimit < n then some (tooLong n frameLimit)
    else if messageLimit < before + n then some (tooLong (before + n) messageLimit)
    else excess? (before + n) sizes

/-- What the reader does about a frame that is within the limits of all frames. -/
def effectWithin : Incoming → ReadEffect
  | .text t _ => .receive t
  | .binary bytes _ =>
    match spelled? bytes with
    | some t => .receive t
    | none => .skip
  | .ping bytes | .pong bytes => if controlLimit < bytes.length then .stop oversized else .skip
  | .close cause =>
    match cause with
    | some (_, reason) =>
      if controlLimit < reason.utf8ByteSize + 2 then .stop oversized else .stop (closeReason cause)
    | none => .stop (closeReason cause)
  | .failure message => .stop message
  | .finished => .stop "stream ended"

/-- What the reader does about what it finds. -/
def effect (f : Incoming) : ReadEffect :=
  match excess? 0 f.portions with
  | some reason => .stop reason
  | none => f.effectWithin

end Incoming

/-! ### Sockets -/

/-- A socket with its queue, its tasks and what is on the line in either direction. -/
structure Socket where
  isOpen : Bool := true
  listener : Option Nat := none
  listeners : Nat := 0
  losses : List LossNotice := []
  queue : List Outgoing := []
  writing : Bool := true
  written : List Outgoing := []
  arriving : List Incoming := []
  reading : Bool := true
  inbound : List String := []
deriving DecidableEq, Repr

namespace Socket

/-- Register a new listener. -/
def listen (s : Socket) : Socket :=
  { s with listener := some s.listeners, listeners := s.listeners + 1 }

/-- Mark the socket closed and tell the listener, unless it is closed already. -/
def lose (reason : String) (s : Socket) : Socket :=
  if s.isOpen then
    { s with
      isOpen := false
      listener := none
      losses := s.losses ++ (s.listener.map (⟨·, reason⟩)).toList }
  else s

/-! ### The owner -/

/-- Queue a frame to be written. -/
def send (text : String) (s : Socket) : Except ChannelError Socket :=
  if s.isOpen && s.writing then .ok { s with queue := s.queue ++ [.text text] }
  else .error .notConnected

/-- Take the next text that was received. -/
def receive (s : Socket) : Arrival × Socket :=
  match s.inbound with
  | text :: rest => (.frame text, { s with inbound := rest })
  | [] => (if s.reading then .pending else .ended, s)

/-- Begin to close: nobody is told any more, and the last frame is queued. -/
def beginClose (s : Socket) : Socket :=
  { s with
    listener := none
    isOpen := false
    queue := if s.isOpen && s.writing then s.queue ++ [.close] else s.queue }

/-- Finish closing: the reader stops. -/
def finishClose (s : Socket) : Socket := { s with reading := false }

/-! ### The writer -/

/-- Write the next frame of the queue. After the last frame the writer stops. -/
def write? (s : Socket) : Option Socket :=
  match s.writing, s.queue with
  | true, frame :: queue =>
    some { s with queue, written := s.written ++ [frame], writing := frame ≠ .close }
  | _, _ => none

/-- Fail to write the next frame, which ends the writer and loses the channel. -/
def failWrite? (reason : String) (s : Socket) : Option Socket :=
  match s.writing, s.queue with
  | true, .text _ :: queue => some ({ s with queue, writing := false }.lose reason)
  | true, .close :: queue => some { s with queue, writing := false }
  | _, _ => none

/-- Write up to so many frames. -/
def writeMany : Nat → Socket → Socket
  | 0, s => s
  | n + 1, s =>
    match s.write? with
    | some s => writeMany n s
    | none => s

/-- Write everything in the queue. -/
def flush (s : Socket) : Socket := s.writeMany s.queue.length

/-! ### The reader -/

/-- A frame arrives from the other side. -/
def arrive (frame : Incoming) (s : Socket) : Socket := { s with arriving := s.arriving ++ [frame] }

/-- Read the next frame that has arrived. When the reader ends, so does the writer. -/
def read? (s : Socket) : Option Socket :=
  match s.reading, s.arriving with
  | true, frame :: arriving =>
    let s := { s with arriving }
    match frame.effect with
    | .receive t => some { s with inbound := s.inbound ++ [t] }
    | .skip => some s
    | .stop reason => some { s.lose reason with reading := false, writing := false }
  | _, _ => none

/-- Read up to so many frames. -/
def readMany : Nat → Socket → Socket
  | 0, s => s
  | n + 1, s =>
    match s.read? with
    | some s => readMany n s
    | none => s

/-- Read everything that has arrived. -/
def readAll (s : Socket) : Socket := s.readMany s.arriving.length

/-! ### Both -/

/-- Write and read until there is nothing left to do. -/
def settle (s : Socket) : Socket := s.flush.readAll

/-- Close, waiting for the last frame to be written. -/
def close (s : Socket) : Socket := s.beginClose.flush.finishClose

end Socket

/-! ### Opening -/

/-- How the other side takes to being connected to. -/
inductive Welcome where
  | accepts
  | refuses
  | rejects
  | ignores
deriving DecidableEq, Repr

/-- Connect to a room. A handshake that is not over within the limit fails; that of a side which
answers takes longer than nothing. -/
def ChannelConfig.connect (c : ChannelConfig) (w : Welcome) : Except ChannelError Socket :=
  match w with
  | .refuses => .error .unreachable
  | .ignores => .error (.connectTimeout c.connectTimeout)
  | .rejects =>
    if c.connectTimeout.millis = 0 then .error (.connectTimeout c.connectTimeout)
    else .error .unreachable
  | .accepts =>
    if c.connectTimeout.millis = 0 then .error (.connectTimeout c.connectTimeout) else .ok {}

end MeshRoom
