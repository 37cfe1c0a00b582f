import FramedLine.Inbound
import FramedLine.Outbound

/-!
A link: both directions of one line. The interrupts of the line feed and drain it byte by byte, the
application queues packets and takes the received ones.
-/

namespace FramedLine

structure Link (geometry : Geometry) where
  inbound : Inbound geometry
  outbound : Outbound geometry
  deriving DecidableEq

namespace Link

open PacketRing

variable {geometry : Geometry}

/-- A link that was not split into its two halves yet. -/
def fresh (geometry : Geometry) (config : Config) : Link geometry where
  inbound := .attach (.fresh geometry) config.dropOn
  outbound := .attach (.fresh geometry)

/-- Hands out the two halves, which happens once in the life of a link. -/
def split (link : Link geometry) : Except Failure (Link geometry) := do
  let received ← link.inbound.ring.split
  let queued ← link.outbound.ring.split
  return {
    inbound := { link.inbound with ring := received }
    outbound := { link.outbound with ring := queued } }

/-- A link that is ready for use. -/
def opened (geometry : Geometry) (config : Config) : Except Failure (Link geometry) :=
  (fresh geometry config).split

def receiveByte (link : Link geometry) (byte : UInt8) (status : Status) : Link geometry :=
  { link with inbound := link.inbound.receive byte status }

def nextByte (link : Link geometry) : Option UInt8 × Link geometry :=
  let (byte, outbound) := link.outbound.nextByte
  (byte, { link with outbound })

/-- Runs a program of the application on the ring of received packets. -/
def read {α : Type} [Inhabited α] (link : Link geometry) (program : Program geometry α) :
    α × Link geometry :=
  let (answer, ring) := link.inbound.ring.run program
  (answer, { link with inbound := { link.inbound with ring } })

/-- Copies the oldest packet to the front of `destination` and releases it. The answer is the number
of bytes that were unread, or nothing without a packet. A packet that is too long for `destination` is
released as well, with a failure, so that it cannot block the ones behind it. -/
def take (link : Link geometry) (destination : Bytes) :
    Except Failure (Option Nat) × Bytes × Link geometry :=
  let ring := link.inbound.ring
  if !ring.answer Reader.hasPacket then
    (.ok none, destination, link)
  else
    let unread := ring.answer Reader.remaining
    let ((_, copied), link) := link.read (Reader.copyInto destination)
    let ((), link) := link.read Reader.release
    (if destination.length < unread then .error .destinationTooShort else .ok (some unread),
      copied, link)

end Link

end FramedLine
