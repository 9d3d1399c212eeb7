import MeshRoom.Channel.Basic

/-!
# Channels in memory

A duplex channel of text frames to one room, kept in memory. What is sent is recorded; what is
pushed waits to be received. A channel is open until it is closed, by its owner or by the other
side, and then stays closed: nothing more is sent or pushed, and what is waiting can still be
received.

At most one listener is told when the other side closes the channel; a later one replaces an
earlier one.
-/

namespace MeshRoom

/-- A channel in memory. -/
structure MemoryChannel where
  sent : List String := []
  inbound : List String := []
  isOpen : Bool := true
  gracefully : Bool := false
  listener : Option Nat := none
  listeners : Nat := 0
  losses : List LossNotice := []
deriving DecidableEq, Repr

namespace MemoryChannel

/-- Send a frame. -/
def send (c : MemoryChannel) (text : String) : Except ChannelError MemoryChannel :=
  if c.isOpen then .ok { c with sent := c.sent ++ [text] } else .error .notConnected

/-- Send a frame if that is possible. -/
def post (c : MemoryChannel) (text : String) : MemoryChannel :=
  match c.send text with
  | .ok c' => c'
  | .error _ => c

/-- Take the record of what was sent. -/
def takeSent (c : MemoryChannel) : List String × MemoryChannel := (c.sent, { c with sent := [] })

/-- Push a frame from the other side. -/
def push (c : MemoryChannel) (text : String) : MemoryChannel :=
  if c.isOpen then { c with inbound := c.inbound ++ [text] } else c

/-- Receive the next frame. -/
def receive (c : MemoryChannel) : Arrival × MemoryChannel :=
  match c.inbound with
  | text :: rest => (.frame text, { c with inbound := rest })
  | [] => (if c.isOpen then .pending else .ended, c)

/-- Register a new listener. -/
def listen (c : MemoryChannel) : MemoryChannel :=
  { c with listener := some c.listeners, listeners := c.listeners + 1 }

/-- Close the channel from the other side, and tell the listener. -/
def disconnect (c : MemoryChannel) (reason : String) : MemoryChannel :=
  if c.isOpen then
    { c with
      isOpen := false
      listener := none
      losses := c.losses ++ (c.listener.map (⟨·, reason⟩)).toList }
  else c

/-- Close the channel from the own side, telling nobody. -/
def close (c : MemoryChannel) : MemoryChannel :=
  { c with isOpen := false, listener := none, gracefully := c.gracefully || c.isOpen }

end MemoryChannel

end MeshRoom
