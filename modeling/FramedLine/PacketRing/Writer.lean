import FramedLine.PacketRing.Program

/-!
The writing end of a packet ring. Bytes are collected in a packet in progress, which the reader does
not see until it is committed.
-/

namespace FramedLine.PacketRing.Writer

open Program Circular

variable {geometry : Geometry}

/-- The slot whose mark is the end of the packet in progress. -/
def openSlot : Program geometry UInt64 := do
  compute (next (← loadHead) geometry.marks.word)

/-- The length of the packet in progress. -/
def tentativeLength : Program geometry Nat := do
  let head ← loadHead
  let stop ← loadMark (← compute (next head geometry.marks.word))
  let begin ← loadMark head
  return (← compute (count stop begin geometry.bytes.word)).toNat

/-- How many bytes can still be pushed. -/
def freeBytes : Program geometry Nat := do
  let stop ← loadMark (← openSlot)
  let read ← loadMark (← loadTail)
  return (← compute (space stop read geometry.bytes.word)).toNat

/-- Whether there is a slot for one more packet; one slot past the packet in progress stays free. -/
def canCommit : Program geometry Bool := do
  let beyond ← compute (next (← openSlot) geometry.marks.word)
  return beyond != (← loadTail)

/-- Adds one byte to the packet in progress, unless the ring is full. -/
def push (byte : UInt8) : Program geometry Bool := do
  let slot ← openSlot
  let stop ← loadMark slot
  let newStop ← compute (next stop geometry.bytes.word)
  if newStop = (← loadMark (← loadTail)) then
    return false
  else
    storeByte stop.toNat byte
    storeMark slot newStop
    return true

/-- Adds all of `data` to the packet in progress, or nothing when there is no room for all of it. -/
def pushAll (data : Bytes) : Program geometry Bool := do
  let slot ← openSlot
  let stop ← loadMark slot
  let read ← loadMark (← loadTail)
  let room ← compute (space stop read geometry.bytes.word)
  if room.toNat < data.length then
    return false
  else
    let toEnd ← compute (spaceToEnd stop read geometry.bytes.word)
    storeWrapping stop.toNat (min data.length toEnd.toNat) data
    storeMark slot (← compute (advance stop (UInt64.ofNat data.length) geometry.bytes.word))
    return true

/-- Takes the last `length` bytes of the packet in progress back, if it has as many. -/
def trim (length : Nat) : Program geometry Bool := do
  if (← tentativeLength) < length then
    return false
  else
    let slot ← openSlot
    let stop ← loadMark slot
    let around ← compute (sub geometry.bytes.word (UInt64.ofNat length))
    storeMark slot (← compute (advance stop around geometry.bytes.word))
    return true

/-- Drops the packet in progress. -/
def discard : Program geometry Unit := do
  let head ← loadHead
  storeMark (← compute (next head geometry.marks.word)) (← loadMark head)

/-- Hands the packet in progress to the reader, or drops it when there is no slot for it. -/
def commit : Program geometry Bool := do
  if (← canCommit) then
    let slot ← openSlot
    storeMark (← compute (next slot geometry.marks.word)) (← loadMark slot)
    storeHead slot
    return true
  else
    discard
    return false

/-- Pushes bytes one after the other, and tells of each whether it was added. -/
def pushEach (ring : PacketRing geometry) (data : Bytes) : List Bool × PacketRing geometry :=
  ring.runEach (data.map push)

end FramedLine.PacketRing.Writer
