import FramedLine.Diagnostic
import FramedLine.Stuffing
import FramedLine.PacketRing.Writer
import FramedLine.PacketRing.Reader

/-!
The sending direction of a link: a ring of packets, each with its checksum, and a driver that turns
them into line bytes one at a time. Packets are queued at once (`send`) or in pieces (`beginPacket` to
`endPacket`). The driver stuffs in place: it sends a marker and masks the byte in the ring, to be sent next.

The transmit notification is armed while there is something to send, so that the line asks for bytes.
-/

namespace FramedLine

structure Outbound (geometry : Geometry) where
  ring : PacketRing geometry
  /-- Whether the transmit notification is unmasked. -/
  armed : Bool := false
  /-- Whether a packet is open for appending. -/
  building : Bool := false
  /-- The checksum register over the packet that is being built. -/
  checksum : UInt16 := Checksum.initial
  /-- Whether the opening delimiter of the oldest packet went out. -/
  opened : Bool := false
  deriving DecidableEq

namespace Outbound

open PacketRing

variable {geometry : Geometry}

/-- A direction in which nothing was sent yet, over `ring`. -/
def attach (ring : PacketRing geometry) : Outbound geometry :=
  { ring }

def arm (outbound : Outbound geometry) : Outbound geometry :=
  { outbound with armed := true }

def disarm (outbound : Outbound geometry) : Outbound geometry :=
  { outbound with armed := false }

/-- Drops the packet that is being built. -/
def abandon (outbound : Outbound geometry) : Outbound geometry :=
  { outbound with building := false, ring := outbound.ring.after Writer.discard }

/-- Commits the packet in progress and has the line ask for it. -/
def publish (outbound : Outbound geometry) : Bool × Outbound geometry :=
  let (committed, ring) := outbound.ring.run Writer.commit
  let outbound := { outbound with ring }
  if committed then (true, outbound.arm) else (false, outbound)

/-- Queues `data` and its checksum as the packet in progress, or nothing when that does not fit. -/
def queue (outbound : Outbound geometry) (data : Bytes) : Bool × Outbound geometry :=
  let refused := fun (ring : PacketRing geometry) =>
    (false, { outbound with ring := ring.after Writer.discard })
  let (stored, ring) := outbound.ring.run (Writer.pushAll data)
  if stored then
    let (sealed, ring) :=
      ring.run (Writer.pushAll (Checksum.trailer (Checksum.ofBytes data)))
    if sealed then { outbound with ring }.publish else refused ring
  else
    refused ring

/-- Queues `data` as one packet, all of it or nothing. A packet that is being built is dropped. -/
def send (outbound : Outbound geometry) (data : Bytes) : Bool × Outbound geometry :=
  let outbound := if outbound.building then outbound.abandon else outbound
  if data.isEmpty then
    (false, outbound)
  else if outbound.ring.answer Writer.freeBytes < data.length + Checksum.width ∨
      !outbound.ring.answer Writer.canCommit then
    (false, outbound)
  else
    outbound.queue data

/-- Opens a packet to be filled in pieces, unless it could not be committed anyway. -/
def beginPacket (outbound : Outbound geometry) : Outbound geometry :=
  let ring := outbound.ring.after Writer.discard
  if ring.answer Writer.canCommit then
    { outbound with ring, building := true, checksum := Checksum.initial }
  else
    { outbound with ring, building := false }

/-- Appends `data` to the open packet. When it does not fit with its checksum, the packet is dropped
and no longer open. -/
def append (outbound : Outbound geometry) (data : Bytes) : Outbound geometry :=
  if !outbound.building then
    outbound
  else if outbound.ring.answer Writer.freeBytes < data.length + Checksum.width then
    outbound.abandon
  else
    let (stored, ring) := outbound.ring.run (Writer.pushAll data)
    if stored then
      { outbound with ring, checksum := Checksum.fold outbound.checksum data }
    else
      { outbound with ring }.abandon

def appendByte (outbound : Outbound geometry) (byte : UInt8) : Outbound geometry :=
  outbound.append [byte]

/-- Appends the high byte of `word`, then the low one. -/
def appendWord (outbound : Outbound geometry) (word : UInt16) : Outbound geometry :=
  outbound.append [(word >>> 8).toUInt8, word.toUInt8]

/-- Closes the open packet and queues it. An empty packet, or one that was dropped, queues nothing. -/
def endPacket (outbound : Outbound geometry) : Bool × Outbound geometry :=
  if !outbound.building then
    (false, outbound)
  else
    let outbound := { outbound with building := false }
    if outbound.ring.answer Writer.tentativeLength = 0 then
      (false, { outbound with ring := outbound.ring.after Writer.discard })
    else
      let (sealed, ring) :=
        outbound.ring.run (Writer.pushAll (Checksum.trailer outbound.checksum))
      if sealed then
        { outbound with ring }.publish
      else
        (false, { outbound with ring := ring.after Writer.discard })

/-- Queues a diagnostic report. The answer is `false` when there is no room at the moment, and a
failure when the bytes of the ring could never hold a report. -/
def sendDiagnostic (outbound : Outbound geometry) (report : Diagnostic) :
    Except Failure Bool × Outbound geometry :=
  if geometry.bytes.slots - 1 < Diagnostic.size + Checksum.width then
    (.error .packetTooLong, outbound)
  else
    let (queued, outbound) := outbound.send report.toBytes
    (.ok queued, outbound)

/-- The closing delimiter of the oldest packet, which also opens the next one if it is there. -/
def closeFrame (outbound : Outbound geometry) : Outbound geometry :=
  let ring := outbound.ring.after Reader.release
  if ring.answer Reader.hasPacket then
    { outbound with ring, opened := true }
  else
    { outbound with ring, opened := false, armed := false }

/-- The next byte for the line. Without a packet there is none, and the notification is masked. -/
def nextByte (outbound : Outbound geometry) : Option UInt8 × Outbound geometry :=
  if !outbound.ring.answer Reader.hasPacket then
    (none, { outbound with opened := false, armed := false })
  else if !outbound.opened then
    (some Stuffing.start, { outbound with opened := true })
  else
    match outbound.ring.answer Reader.unreadByte? with
    | none => (some Stuffing.start, outbound.closeFrame)
    | some byte =>
      if Stuffing.needsEscape byte then
        let masked := Reader.overwriteUnread (byte ^^^ Stuffing.escapeMask)
        (some Stuffing.escape, { outbound with ring := outbound.ring.after masked })
      else
        (some byte, { outbound with ring := outbound.ring.after Reader.takeByte })

/-- Line bytes in the order in which they were taken, and whether the driver then ran dry. -/
structure Stretch where
  bytes : Bytes
  dry : Bool
  deriving DecidableEq, Repr

/-- Takes up to `limit` bytes for the line, and stops where there is none. -/
def takeLine (outbound : Outbound geometry) : Nat → Stretch × Outbound geometry
  | 0 => (⟨[], false⟩, outbound)
  | limit + 1 =>
    match outbound.nextByte with
    | (none, after) => (⟨[], true⟩, after)
    | (some byte, after) =>
      let (rest, final) := after.takeLine limit
      (⟨byte :: rest.bytes, rest.dry⟩, final)

end Outbound

end FramedLine
