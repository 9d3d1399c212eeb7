import MeshRoom.Number.Single

/-!
# Words in bytes

Buffers hold words of thirty-two bits, the least byte first.
-/

namespace MeshRoom.Words

/-- The bytes of a word. -/
def bytesOf (w : UInt32) : List UInt8 :=
  [w.toUInt8, (w >>> 8).toUInt8, (w >>> 16).toUInt8, (w >>> 24).toUInt8]

/-- The word of four bytes. -/
def ofBytes (a b c d : UInt8) : UInt32 :=
  a.toUInt32 ||| (b.toUInt32 <<< 8) ||| (c.toUInt32 <<< 16) ||| (d.toUInt32 <<< 24)

/-- The bytes of words. -/
def toBytes (ws : List UInt32) : List UInt8 := ws.flatMap bytesOf

/-- The words of bytes, leaving out a last group of fewer than four. -/
def read : List UInt8 → List UInt32
  | a :: b :: c :: d :: rest => ofBytes a b c d :: read rest
  | _ => []

/-- Items in groups of two, leaving out a last one alone. -/
def pairs {α : Type _} : List α → List (α × α)
  | a :: b :: rest => (a, b) :: pairs rest
  | _ => []

/-- Items in groups of three, leaving out a last group of fewer. -/
def triples {α : Type _} : List α → List (α × α × α)
  | a :: b :: c :: rest => (a, b, c) :: triples rest
  | _ => []

end MeshRoom.Words
