import MeshRoom.Duration

/-!
# Channels

What a duplex channel of text frames has to say, however it is carried: why it cannot be opened or
sent on, what there is to receive, and who was told that it was lost.
-/

namespace MeshRoom

/-- Why a channel is not opened, or a frame not sent. -/
inductive ChannelError where
  | notConnected
  | connectTimeout (limit : Duration)
  | unreachable
deriving DecidableEq, Repr

/-- What is told about a channel error. -/
def ChannelError.message : ChannelError → String
  | .notConnected => "transport is not connected"
  | .connectTimeout limit => "connect timed out after " ++ limit.text
  | .unreachable => "websocket error"

/-- A listener told of the loss of a channel, and why it was lost. Listeners are numbered in the
order they are registered. -/
structure LossNotice where
  listener : Nat
  reason : String
deriving DecidableEq, Repr

/-- What a channel has to receive: a frame, nothing as yet, or nothing ever again. -/
inductive Arrival where
  | frame (text : String)
  | pending
  | ended
deriving DecidableEq, Repr

end MeshRoom
