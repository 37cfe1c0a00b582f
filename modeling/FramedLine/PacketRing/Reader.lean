import FramedLine.PacketRing.Program

/-!
The reading end of a packet ring. The oldest packet is read in place, as often and in as many pieces as
the reader likes, and stays in the ring until it is released.
-/

namespace FramedLine.PacketRing.Reader

open Program Circular

variable {geometry : Geometry}

/-- Where the unread part of the oldest packet begins and ends. -/
def front : Program geometry (Option (UInt64 × UInt64)) := do
  let tail ← loadTail
  if tail = (← loadHead) then
    return none
  else
    let cursor ← loadMark tail
    let stop ← loadMark (← compute (next tail geometry.marks.word))
    return some (cursor, stop)

def packetCount : Program geometry Nat := do
  let head ← loadHead
  return (← compute (count head (← loadTail) geometry.marks.word)).toNat

def hasPacket : Program geometry Bool := do
  let tail ← loadTail
  return tail != (← loadHead)

/-- The whole length of the oldest packet, of which part may already be read; zero without one. -/
def packetLength : Program geometry Nat := do
  match (← front) with
  | none => return 0
  | some (cursor, stop) =>
    let unread ← compute (count stop cursor geometry.bytes.word)
    return (← loadConsumed) + unread.toNat

/-- The unread length of the oldest packet; zero without one. -/
def remaining : Program geometry Nat := do
  match (← front) with
  | none => return 0
  | some (cursor, stop) => return (← compute (count stop cursor geometry.bytes.word)).toNat

/-- Takes the next byte of the oldest packet. Past its end, and without a packet, this is zero. -/
def takeByte : Program geometry UInt8 := do
  match (← front) with
  | none => return 0
  | some (cursor, stop) =>
    if cursor = stop then
      return 0
    else
      let byte ← loadByte cursor.toNat
      storeMark (← loadTail) (← compute (next cursor geometry.bytes.word))
      storeConsumed ((← loadConsumed) + 1)
      return byte

/-- Takes the next bytes of the oldest packet, as many as there are but at most `limit`. The answer
is the length of the whole packet, as `packetLength` tells it, and the bytes. -/
def takeBytes (limit : Nat) : Program geometry (Nat × Bytes) := do
  match (← front) with
  | none => return (0, [])
  | some (cursor, stop) =>
    let unread ← compute (count stop cursor geometry.bytes.word)
    let length := min limit unread.toNat
    let toEnd ← compute (countToEnd stop cursor geometry.bytes.word)
    let data ← loadWrapping cursor.toNat (min length toEnd.toNat) length
    let consumed ← loadConsumed
    storeMark (← loadTail)
      (← compute (advance cursor (UInt64.ofNat length) geometry.bytes.word))
    storeConsumed (consumed + length)
    return (consumed + unread.toNat, data)

/-- Takes bytes as `takeBytes` does, to the front of `destination`, whose other bytes stay. -/
def copyInto (destination : Bytes) : Program geometry (Nat × Bytes) := do
  let (total, data) ← takeBytes destination.length
  return (total, data ++ destination.drop data.length)

/-- Removes the oldest packet, read or not. -/
def release : Program geometry Unit := do
  let tail ← loadTail
  if tail = (← loadHead) then
    return ()
  else
    storeConsumed 0
    storeTail (← compute (next tail geometry.marks.word))

/-- The next byte of the oldest packet, without taking it. -/
def unreadByte? : Program geometry (Option UInt8) := do
  match (← front) with
  | none => return none
  | some (cursor, stop) =>
    if cursor = stop then
      return none
    else
      return some (← loadByte cursor.toNat)

/-- Puts another byte in the place of the next one. -/
def overwriteUnread (byte : UInt8) : Program geometry Unit := do
  match (← front) with
  | none => return ()
  | some (cursor, stop) =>
    if cursor = stop then
      return ()
    else
      storeByte cursor.toNat byte

/-- Takes bytes one after the other, with zeros where there are no more. -/
def takeEach (ring : PacketRing geometry) (count : Nat) : Bytes × PacketRing geometry :=
  ring.runEach (List.replicate count takeByte)

end FramedLine.PacketRing.Reader
