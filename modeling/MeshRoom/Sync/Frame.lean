import MeshRoom.Channel.Memory
import MeshRoom.Sync.Loop

/-!
# Frames

On every frame a client ticks and sends what the tick tells. Frames follow one another until the
channel is found closed; what cannot be sent is lost.
-/

namespace MeshRoom.Sync

/-- Tick, and send what there is to tell. -/
def tickAndSend (own : Session) (controls : Controls) (s : Sync) (channel : MemoryChannel) :
    Tick × Sync × MemoryChannel :=
  let (tick, s) := s.tick own controls
  (tick, s, tick.messages.foldl MemoryChannel.post channel)

/-- So many frames, and whether the loop has ended by itself. -/
def frames (own : Session) (controls : Controls) :
    Nat → Sync → MemoryChannel → Bool × Sync × MemoryChannel
  | 0, s, channel => (false, s, channel)
  | n + 1, s, channel =>
    if channel.isOpen then
      let (_, s, channel) := s.tickAndSend own controls channel
      frames own controls n s channel
    else (true, s, channel)

end MeshRoom.Sync
