import FramedLine.Failure
import FramedLine.Geometry

/-!
The memory of a packet ring: a queue of byte strings between one writer and one reader.

The bytes of all packets lie in one circular array. The boundaries between packets lie in a second
one, the marks: packet `i` runs from `marks[i]` to `marks[i + 1]`. The oldest packet is at slot `tail`,
whose mark moves forward as the reader takes bytes. The newest packet ends at the mark of slot `head`,
and the mark after that one is where the packet in progress ends. The writer owns `head` and the marks
beyond it, the reader owns `tail` and its mark while a packet is there.
-/

namespace FramedLine

structure PacketRing (geometry : Geometry) where
  bytes : Vector UInt8 geometry.bytes.slots
  marks : Vector UInt8 geometry.marks.slots
  head : UInt8
  tail : UInt8
  /-- How many bytes of the oldest packet the reader has taken; its own count, which the writer does
  not see. -/
  consumed : Nat
  /-- Whether the two ends were handed out. -/
  taken : Bool
  deriving DecidableEq

namespace PacketRing

/-- A ring in which nothing was ever written. -/
def fresh (geometry : Geometry) : PacketRing geometry where
  bytes := Vector.replicate _ 0
  marks := Vector.replicate _ 0
  head := 0
  tail := 0
  consumed := 0
  taken := false

instance (geometry : Geometry) : Inhabited (PacketRing geometry) := ⟨fresh geometry⟩

/-- Hands out the two ends, which happens once in the life of a ring. -/
def split {geometry : Geometry} (ring : PacketRing geometry) :
    Except Failure (PacketRing geometry) :=
  if ring.taken then .error .alreadySplit else .ok { ring with taken := true }

/-- A look at the committed part of a ring. -/
structure Snapshot where
  head : UInt8
  tail : UInt8
  packets : UInt8
  bytes : UInt8
  deriving DecidableEq, Repr, Inhabited

end PacketRing

end FramedLine
