import FramedLine.Config
import FramedLine.Stuffing
import FramedLine.PacketRing.Writer
import FramedLine.PacketRing.Reader

/-!
The receiving direction of a link: a decoder that takes one line byte at a time and the ring that it
writes to. Data bytes go straight to the packet in progress, which is committed by the delimiter that
closes it if its checksum is right. Everything else is dropped without a word.
-/

namespace FramedLine

/-- A task that waits for packets: whether it asked to be woken, and how often it was. -/
structure Waker where
  registered : Bool := false
  woken : Nat := 0
  deriving DecidableEq, Repr, Inhabited

/-- A registration lasts: it is not used up by a wake. -/
def Waker.register (waker : Waker) : Waker :=
  { waker with registered := true }

def Waker.wake (waker : Waker) : Waker :=
  if waker.registered then { waker with woken := waker.woken + 1 } else waker

structure Inbound (geometry : Geometry) where
  ring : PacketRing geometry
  decoder : Stuffing.Decoder := {}
  /-- Whether a packet is in progress; otherwise everything up to a delimiter is noise. -/
  started : Bool := false
  /-- The checksum register over the packet in progress. -/
  checksum : UInt16 := Checksum.initial
  /-- The line errors that drop the packet in progress. -/
  dropOn : Status
  waker : Waker := {}
  deriving DecidableEq

namespace Inbound

open PacketRing

variable {geometry : Geometry}

/-- A decoder that has seen nothing, at the writing end of `ring`. -/
def attach (ring : PacketRing geometry) (dropOn : Status) : Inbound geometry :=
  { ring, dropOn }

/-- Drops the packet in progress and waits for the next delimiter. -/
def abandon (inbound : Inbound geometry) : Inbound geometry :=
  { inbound with
    ring := inbound.ring.after Writer.discard
    decoder := inbound.decoder.clear
    started := false
    checksum := Checksum.initial }

/-- Commits the packet in progress if it is longer than its checksum and the checksum is right. An
empty packet is an idle delimiter. -/
def closePacket (inbound : Inbound geometry) : Inbound geometry :=
  let length := inbound.ring.answer Writer.tentativeLength
  if length = 0 then
    inbound
  else if length ≤ Checksum.width ∨ inbound.checksum ≠ 0 then
    { inbound with ring := inbound.ring.after Writer.discard }
  else
    let (trimmed, ring) := inbound.ring.run (Writer.trim Checksum.width)
    if trimmed then
      let (committed, ring) := ring.run Writer.commit
      { inbound with
        ring
        waker := if committed then inbound.waker.wake else inbound.waker }
    else
      { inbound with ring }

/-- Adds a data byte to the packet in progress, which is dropped when the ring is full. -/
def store (inbound : Inbound geometry) (byte : UInt8) : Inbound geometry :=
  let (stored, ring) := inbound.ring.run (Writer.push byte)
  let after := { inbound with ring, checksum := Checksum.step inbound.checksum byte }
  if stored then after else after.abandon

/-- Takes one byte from the line, with the errors that came with it. -/
def receive (inbound : Inbound geometry) (byte : UInt8) (status : Status) : Inbound geometry :=
  if status.intersects inbound.dropOn then
    inbound.abandon
  else if byte ≠ Stuffing.start ∧ !inbound.started then
    inbound
  else
    let (token, decoder) := inbound.decoder.feed byte
    let inbound := { inbound with decoder }
    match token with
    | .start => { inbound.closePacket with started := true, checksum := Checksum.initial }
    | .reset => inbound.abandon
    | .pending => inbound
    | .data value => inbound.store value

def receiveAll (inbound : Inbound geometry) (data : Bytes) (status : Status) : Inbound geometry :=
  data.foldl (fun state byte => state.receive byte status) inbound

end Inbound

end FramedLine
